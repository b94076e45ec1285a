import Reattempt.Config.Error
import Reattempt.Text.Shape

/-!
# Failures

A failure is one of a run's own, or an application's, of which only what it shows is
known: its type, its text, its shape, and possibly the failure that caused it. A failure has a
chain of sources. Classifiers and notifiers are given the bare failure, without the layer that a
completion adds.
-/

namespace Reattempt

/-- What an application's failure shows of itself. -/
structure Fault where
  typeName : String
  text : String
  shape : Shape

/-- A failure of an attempt or of a run. -/
inductive Failure where
  /-- An application's failure without a source. -/
  | fault (fault : Fault)
  /-- An application's failure with a source. -/
  | faultOver (fault : Fault) (source : Failure)
  | panic (message : String)
  /-- The client that owned a run is gone. -/
  | destroyed (session : String)
  | config (cause : ConfigError)
  /-- One layer of wrapping added where an attempt completes. -/
  | completion (cause : Failure)
  /-- A run that ended on a failure that its classifier rejected. -/
  | fatal (cause : Failure)
  /-- A run that was abandoned for the client of a session. -/
  | cancelled (session : String)
  /-- A run that its scheduler dropped. -/
  | interrupted

/-- The concrete type of a failure. -/
inductive Kind where
  | application (typeName : String)
  | panic
  | destroyed
  | config
  | completion
  | run
  deriving DecidableEq

def Kind.typeName : Kind → String
  | .application typeName => typeName
  | .panic => "PanicError"
  | .destroyed => "ClientDestroyed"
  | .config => "ConfigError"
  | .completion => "CompletionError"
  | .run => "RetryError"

def ConfigError.shape : ConfigError → Shape
  | .noWaits => .atom "EmptyBackoff"
  | .noScheduler => .atom "MissingScheduler"

namespace Failure

/-- The type of failures that are no more than a text. -/
def textType : String := "String"

def ofText (text : String) : Failure := .fault ⟨textType, text, .quoted text⟩

def kind : Failure → Kind
  | fault f => .application f.typeName
  | faultOver f _ => .application f.typeName
  | panic _ => .panic
  | destroyed _ => .destroyed
  | config _ => .config
  | completion _ => .completion
  | fatal _ => .run
  | cancelled _ => .run
  | interrupted => .run

/-- What is said of the client of a session that is gone. -/
def destroyedText (session : String) : String :=
  "client <" ++ session ++ ">: the client was destroyed"

def text : Failure → String
  | fault f => f.text
  | faultOver f _ => f.text
  | panic message => "panicked: " ++ message
  | destroyed session => destroyedText session
  | config cause => cause.text
  | completion cause => "asynchronous completion failed: " ++ cause.text
  | fatal cause => "permanently failed: " ++ cause.text
  | cancelled session => destroyedText session
  | interrupted => "retry run was dropped by its scheduler"

/-- The shape of the failure that a client is gone. -/
def destroyedShape (session : String) : Shape :=
  .record "ClientDestroyed" [("session_id", .quoted session)] true

def shape : Failure → Shape
  | fault f => f.shape
  | faultOver f _ => f.shape
  | panic message => .record "PanicError" [("message", .quoted message)] true
  | destroyed session => destroyedShape session
  | config cause => cause.shape
  | completion cause => .record "CompletionError" [("cause", cause.shape)] true
  | fatal cause => .tuple "Fatal" [cause.shape]
  | cancelled session => .tuple "Cancelled" [destroyedShape session]
  | interrupted => .atom "Interrupted"

def source? : Failure → Option Failure
  | fault _ => none
  | faultOver _ source => some source
  | panic _ => none
  | destroyed _ => none
  | config _ => none
  | completion cause => some cause
  | fatal cause => some cause
  | cancelled session => some (destroyed session)
  | interrupted => none

/-- The failures behind a failure, the nearest first. -/
def chain : Failure → List Failure
  | fault _ => []
  | faultOver _ source => source :: source.chain
  | panic _ => []
  | destroyed _ => []
  | config _ => []
  | completion cause => cause :: cause.chain
  | fatal cause => cause :: cause.chain
  | cancelled session => [destroyed session]
  | interrupted => []

theorem chain_eq (f : Failure) :
    f.chain = match f.source? with
      | none => []
      | some source => source :: source.chain := by
  cases f <;> rfl

/-- What there is to classify and report: a failure without its completion layer, if it has one.
Only one layer is taken off. -/
def bare : Failure → Failure
  | completion cause => cause
  | f => f

end Failure

end Reattempt
