import Reattempt.Callable.Classifier
import Reattempt.Callable.Notifier
import Reattempt.Scripted.Faults
import Reattempt.Scripted.Fixture

/-!
# Scripted notifiers and classifiers

Both record what they are shown. A notifier may flip a switch or panic on chosen calls; a
classifier decides by a rule.
-/

namespace Reattempt.Scripted

/-- What a scripted notifier does beside recording. -/
structure NotifierScript where
  label : String
  cancelAt : Option Nat
  switch : Option String
  panicOn : List Nat
  payload : Payload

/-- The notifier that plays a script and counts its calls. -/
def NotifierScript.notifier (s : NotifierScript) (counter : Nat) : Notifier Fixture where
  consumer cause := do
    let n ← Fixture.count counter
    Fixture.record (.notified s.label n cause)
    match s.switch with
    | some switch =>
      if s.cancelAt = some n then modify fun f => f.cancel switch else pure ()
    | none => pure ()
    if s.panicOn.contains n then pure (.panicked s.payload) else pure (.returned ())

/-- How a scripted classifier decides. -/
inductive Rule where
  /-- Recoverable are the causes of these types. -/
  | kinds (recoverable : List Kind)
  /-- Recoverable are the causes whose text has this part. -/
  | contains (part : String)
  /-- Recoverable are time-outs and errors of the server. -/
  | transient
  /-- One verdict for each call, and one for all calls after them. -/
  | inTurn (verdicts : List Bool) (afterwards : Bool)
  /-- Everything is recoverable before the given call, which panics like all that follow. -/
  | panicsFrom (call : Nat) (payload : Payload)

/-- Does the first text occur in the second? -/
def occursIn (part : List Char) : List Char → Bool
  | [] => part.isEmpty
  | c :: rest => part.isPrefixOf (c :: rest) || occursIn part rest

/-- What a rule says about a cause at the `n`-th call, counted from one. -/
def Rule.decide (rule : Rule) (n : Nat) (cause : Failure) : Reply Bool :=
  match rule with
  | kinds recoverable => .returned (recoverable.contains cause.kind)
  | contains part => .returned (occursIn part.toList cause.text.toList)
  | transient => .returned (HttpFault.isTransient httpType cause)
  | inTurn verdicts afterwards => .returned (verdicts.getD (n - 1) afterwards)
  | panicsFrom call payload => if call ≤ n then .panicked payload else .returned true

/-- A classifier for scripts. -/
inductive ClassifierScript where
  | always
  | never
  | standard
  | rejecting (kind : Kind)
  | verdict (recoverable : Failure → Bool)
  /-- Records every cause and decides by a rule. -/
  | ruled (label : String) (rule : Rule)

/-- The classifier that plays a script and counts its calls. -/
def ClassifierScript.classifier (s : ClassifierScript) (counter : Nat) : Classifier Fixture :=
  match s with
  | always => .always
  | never => .never
  | standard => .standard
  | rejecting kind => .rejecting kind
  | verdict recoverable => .ofVerdict recoverable
  | ruled label rule => ⟨fun cause => do
      let n ← Fixture.count counter
      Fixture.record (.classified label n cause)
      pure (rule.decide n cause)⟩

end Reattempt.Scripted
