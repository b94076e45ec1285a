import Reattempt.Failure.Basic

/-!
# Failures of a sample application

The failures that scripted operations fail with: a missing permission, failed requests of three
kinds, and a label put around another failure.
-/

namespace Reattempt.Scripted

/-- The type of the failure that a permission is missing. -/
def authType : String := "AuthError"

def httpType : String := "HttpError"

def contextType : String := "ContextError"

def unauthorized : Failure := .fault ⟨authType, "unauthorized", .atom "AuthError"⟩

/-- How a request can fail. -/
inductive HttpFault where
  | timeout
  | serverError (code : UInt16)
  | clientError (code : UInt16)
  deriving DecidableEq

namespace HttpFault

def text : HttpFault → String
  | timeout => "request timed out"
  | serverError code => "server error: " ++ Nat.repr code.toNat
  | clientError code => "client error: " ++ Nat.repr code.toNat

def shape : HttpFault → Shape
  | timeout => .atom "Timeout"
  | serverError code => .tuple "ServerError" [.number code.toNat]
  | clientError code => .tuple "ClientError" [.number code.toNat]

/-- A failed request as a failure of an application that gives it the type `typeName`. -/
def toFailure (typeName : String) (e : HttpFault) : Failure := .fault ⟨typeName, e.text, e.shape⟩

/-- Is this a failure of the given type that a later request may not meet again, a time-out or an
error of the server? -/
def isTransient (typeName : String) : Failure → Bool
  | .fault f =>
    f.typeName == typeName && match f.shape with
      | .atom "Timeout" => true
      | .tuple "ServerError" _ => true
      | _ => false
  | _ => false

end HttpFault

def labelled (label : String) (source : Failure) : Failure :=
  .faultOver ⟨contextType, label,
    .record "ContextError" [("label", .quoted label), ("cause", source.shape)] true⟩ source

end Reattempt.Scripted
