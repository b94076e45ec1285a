import Reattempt.Failure.Basic

/-!
# Outcomes of runs

A run ends with the value of its operation, with the failure that its classifier rejected, or
without an answer because its client is gone or its scheduler dropped it. A rejected failure is
kept as the attempt produced it; a look-up by type sees through one completion layer.
-/

namespace Reattempt

/-- Why a run ended without a value. -/
inductive RunFailure where
  /-- The classifier rejected this failure, which is kept with all its layers. -/
  | fatal (cause : Failure)
  /-- The client of this session was gone before an attempt. -/
  | cancelled (session : String)
  /-- The scheduler dropped the run before it settled. -/
  | interrupted

abbrev Outcome (α : Type) := Except RunFailure α

namespace RunFailure

/-- The end of a run as a failure in its own right. -/
def toFailure : RunFailure → Failure
  | fatal cause => .fatal cause
  | cancelled session => .cancelled session
  | interrupted => .interrupted

/-- The end of a run that a failure stands for, if it is one. -/
def ofFailure? : Failure → Option RunFailure
  | .fatal cause => some (fatal cause)
  | .cancelled session => some (cancelled session)
  | .interrupted => some interrupted
  | _ => none

def text (e : RunFailure) : String := e.toFailure.text

def shape (e : RunFailure) : Shape := e.toFailure.shape

/-- The failures behind the end of a run, the nearest first. -/
def chain (e : RunFailure) : List Failure := e.toFailure.chain

def isFatal : RunFailure → Bool
  | fatal _ => true
  | _ => false

def isCancelled : RunFailure → Bool
  | cancelled _ => true
  | _ => false

def isInterrupted : RunFailure → Bool
  | interrupted => true
  | _ => false

/-- The failure that ended the run, if it was a rejected one. -/
def rejected? : RunFailure → Option Failure
  | fatal cause => some cause
  | _ => none

/-- Looks for a failure of the given type in the rejected failure and, where that is a completion
layer, in the cause right below it. -/
def find? (e : RunFailure) (kind : Kind) : Option Failure :=
  e.rejected?.bind fun cause =>
    if cause.kind = kind then some cause
    else match cause with
      | .completion inner => if inner.kind = kind then some inner else none
      | _ => none

/-- A look-up prefers the rejected failure to what is below its completion layer, and goes no
deeper. -/
theorem find?_fatal (cause : Failure) (kind : Kind) : (fatal cause).find? kind =
    if cause.kind = kind then some cause
    else if cause.bare.kind = kind then some cause.bare
    else none := by
  by_cases h : cause.kind = kind
  · simp [find?, rejected?, h]
  · cases cause with
    | completion inner => rfl
    | _ => simp [find?, rejected?, h, Failure.bare]

theorem isSome_find?_fatal {cause : Failure} {kind : Kind} :
    ((fatal cause).find? kind).isSome ↔ cause.kind = kind ∨ cause.bare.kind = kind := by
  rw [find?_fatal]
  by_cases h : cause.kind = kind
  · simp [h]
  · by_cases hb : cause.bare.kind = kind <;> simp [h, hb]

@[simp] theorem ofFailure?_toFailure (e : RunFailure) : ofFailure? e.toFailure = some e := by
  cases e <;> rfl

end RunFailure

/-- The shape of an outcome, given the shape of its value. -/
def Outcome.shape {α : Type} (value : α → Shape) : Outcome α → Shape
  | .ok a => .tuple "Ok" [value a]
  | .error e => .tuple "Err" [e.shape]

end Reattempt
