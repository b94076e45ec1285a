import Reattempt.Trial

/-!
# Scenes of the demonstration

A scene is a trial that is told line by line: what is printed at each call, at each notice and when
the switch is flipped, between the log entries that the run writes.
-/

namespace Reattempt.Demo

open Scripted

/-- A part of what the demonstration shows. -/
inductive Item where
  | printed (text : String)
  | logged (entry : Log.Entry)

/-- A trial and how it is told. -/
structure Scene (α : Type) where
  trial : Trial α
  /-- What the `n`-th call of the operation prints. -/
  onCall : Nat → List String
  onNotice : Nat → Failure → List String
  /-- What is printed when the switch is flipped. -/
  onSwitch : List String
  /-- What is printed at the end, given the outcome and the numbers of calls and notices. -/
  epilogue : Outcome α → Nat → Nat → List String

/-- The least level of the entries that the demonstration shows. -/
def maxLevel : Log.Level := .info

/-- Do the shown entries name the part of the program that wrote them? -/
def showsTargets : Bool := false

def isShown : Log.Level → Bool
  | .error => true
  | .warn => true
  | .info => true
  | .debug => false

namespace Scene

variable {α : Type}

/-- Tells moments, after so many calls and notices. -/
def tell (s : Scene α) (calls notices : Nat) : List (Trial.Moment α) → List Item
  | [] => []
  | .line ⟨_, .act (.called _)⟩ :: rest =>
    (s.onCall (calls + 1)).map .printed ++ s.tell (calls + 1) notices rest
  | .line ⟨_, .act (.notified cause _)⟩ :: rest =>
    (s.onNotice (notices + 1) cause).map .printed ++ s.tell calls (notices + 1) rest
  | .line ⟨_, .log entry⟩ :: rest =>
    (if isShown entry.event.level then [.logged entry] else []) ++ s.tell calls notices rest
  | .event _ .switched :: rest => s.onSwitch.map .printed ++ s.tell calls notices rest
  | _ :: rest => s.tell calls notices rest

def calls (moments : List (Trial.Moment α)) : Nat :=
  moments.countP fun
    | .line ⟨_, .act (.called _)⟩ => true
    | _ => false

/-- Counts the causes shown to the notifier. -/
def notices (moments : List (Trial.Moment α)) : Nat :=
  moments.countP fun
    | .line ⟨_, .act (.notified _ _)⟩ => true
    | _ => false

/-- Plays a scene: what it shows, and how much time it takes. -/
def play (s : Scene α) : List Item × Nat :=
  let report := s.trial.report
  let told := s.tell 0 0 report.moments
  let ends := report.outcomes.flatMap fun outcome =>
    s.epilogue outcome (calls report.moments) (notices report.moments)
  (told ++ ends.map .printed, report.elapsed.getD 0)

end Scene

end Reattempt.Demo
