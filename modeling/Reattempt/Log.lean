import Reattempt.Duration.Text

/-!
# The log

Entries are made of an event, which fixes level, message and fields, and of the spans that were
open around it, the outermost first. The event keeps what happened; its words are one function.
-/

namespace Reattempt.Log

inductive Level where
  | error
  | warn
  | info
  | debug
  deriving DecidableEq

/-- A span that entries lie in. -/
inductive Span where
  | caller (name : String) (fields : List (String × String))
  | attempt (session action : String) (number : UInt32)
  deriving DecidableEq

/-- The value of a field. -/
inductive Value where
  | text (s : String)
  | number (n : Nat)
  | seconds (d : Duration)
  deriving DecidableEq

/-- What a log entry reports. Failures and panics are kept as their text. -/
inductive Event where
  | clientGone
  | starting
  | succeeded
  | checkPanicked (panic : String)
  | notifierPanicked (panic message : String)
  | classifierPanicked (panic : String)
  | failed (session action failure : String)
  | permanentlyFailed (session action failure : String)
  | waiting (session action : String) (delay : Duration)
  | handleDropped
  deriving DecidableEq

/-- A log entry. -/
structure Entry where
  event : Event
  spans : List Span
  deriving DecidableEq

namespace Span

def name : Span → String
  | caller name _ => name
  | attempt .. => "retry"

def fields : Span → List (String × Value)
  | caller _ fields => fields.map fun field => (field.1, .text field.2)
  | attempt session action number =>
    [("session_id", .text session), ("action", .text action), ("attempt", .number number.toNat)]

end Span

namespace Event

def level : Event → Level
  | clientGone => .debug
  | starting => .debug
  | succeeded => .debug
  | checkPanicked _ => .error
  | notifierPanicked _ _ => .warn
  | classifierPanicked _ => .error
  | failed _ _ _ => .error
  | permanentlyFailed _ _ _ => .error
  | waiting _ _ _ => .info
  | handleDropped => .debug

/-- How messages about a client's run begin. -/
def clientText (session : String) : String := "client <" ++ session ++ ">: "

def message : Event → String
  | clientGone => "client is gone, abandoning"
  | starting => "starting attempt"
  | succeeded => "attempt succeeded"
  | checkPanicked _ => "cancellation check panicked, treating the client as gone"
  | notifierPanicked _ message =>
    "error notifier panicked: " ++ message ++ ". The notifier runs on the retry scheduler, so " ++
      "the panic never reaches the caller; handle the failure inside the notifier instead."
  | classifierPanicked _ => "error classifier panicked, treating the failure as fatal"
  | failed session action _ => clientText session ++ "failed to <" ++ action ++ ">"
  | permanentlyFailed session action _ =>
    clientText session ++ "permanently failed to <" ++ action ++ ">"
  | waiting session action delay =>
    clientText session ++ "waiting " ++ delay.text ++ " before retrying to <" ++ action ++ ">"
  | handleDropped => "retry handle was dropped before the run settled"

/-- The fields of an event beside its message. -/
def fields : Event → List (String × Value)
  | checkPanicked panic => [("error", .text panic)]
  | notifierPanicked panic _ => [("error", .text panic)]
  | classifierPanicked panic => [("error", .text panic)]
  | failed _ _ failure => [("error", .text failure)]
  | permanentlyFailed _ _ failure => [("error", .text failure)]
  | waiting _ _ delay => [("delay_secs", .seconds delay)]
  | _ => []

end Event

end Reattempt.Log
