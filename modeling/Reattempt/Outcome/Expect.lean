import Reattempt.Outcome.Basic

/-!
# Expectations of outcomes

Checks for tests: each passes or gives the text of its complaint.
-/

namespace Reattempt.Outcome

variable {α : Type}

/-- The complaint about two values that should be equal. -/
def unequalText (left right : Shape) : String :=
  "assertion `left == right` failed\n  left: " ++ left.line ++ "\n right: " ++ right.line

def expectSuccess : Outcome α → Except String Unit
  | .ok _ => .ok ()
  | .error e => .error ("Expected success, got " ++ e.shape.line)

/-- Passes if the run succeeded with the expected value. -/
def expectValue [DecidableEq α] (value : α → Shape) (expected : α) : Outcome α → Except String Unit
  | .ok a => if a = expected then .ok () else .error (unequalText (value a) (value expected))
  | .error e =>
    .error ("Expected success with " ++ (value expected).line ++ ", got " ++ e.shape.line)

/-- Passes if the run ended on a rejected failure. -/
def expectFatal (value : α → Shape) : Outcome α → Except String Unit
  | .error (.fatal _) => .ok ()
  | other => .error ("Expected a fatal failure, got " ++ (Outcome.shape value other).line)

/-- Passes if the run ended on a rejected failure in which the given type is found. -/
def expectFatalOf (value : α → Shape) (kind : Kind) : Outcome α → Except String Unit
  | .error (.fatal cause) =>
    if (RunFailure.find? (.fatal cause) kind).isSome then .ok ()
    else .error ("Expected a fatal " ++ kind.typeName ++ ", got " ++
      (RunFailure.fatal cause).shape.line)
  | other => .error ("Expected a fatal failure, got " ++ (Outcome.shape value other).line)

/-- Passes if the run was abandoned. -/
def expectCancelled (value : α → Shape) : Outcome α → Except String Unit
  | .error (.cancelled _) => .ok ()
  | other => .error ("Expected cancellation, got " ++ (Outcome.shape value other).line)

/-- Passes if the run was abandoned for the given session. -/
def expectCancelledFor (value : α → Shape) (session : String) : Outcome α → Except String Unit
  | .error (.cancelled actual) =>
    if actual = session then .ok ()
    else .error (unequalText (.quoted actual) (.quoted session))
  | other => .error ("Expected cancellation, got " ++ (Outcome.shape value other).line)

end Reattempt.Outcome
