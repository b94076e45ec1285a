import Reattempt.Scripted.Observers

/-!
# Probes

A scripted classifier or notifier is tried on a list of failures without a run around it.
-/

namespace Reattempt.Scripted

/-- What a classifier says about a failure, and then about the bare failure. -/
structure Verdict where
  direct : Reply Bool
  bare : Reply Bool

/-- Asks a classifier about each failure and what is left of it when it is bare. -/
def probeClassifier (s : ClassifierScript) (failures : List Failure) :
    List Verdict × Fixture :=
  let (counter, fixture) := Fixture.init.newCounter
  let classifier := s.classifier counter
  (failures.mapM fun f => do
    let direct ← classifier.judge f
    let bare ← classifier.judge f.bare
    pure (Verdict.mk direct bare)).run fixture

/-- Shows each failure to a notifier, outside all spans. -/
def probeNotifier (s : NotifierScript) (failures : List Failure) :
    Told (Note Unit) Fixture (List Unit) :=
  let (counter, fixture) := Fixture.init.newCounter
  let notifier := s.notifier counter
  (failures.mapM fun f => notifier.notify f : Noted (Note Unit) Fixture _).run [] fixture

end Reattempt.Scripted
