import Reattempt.Failure.Basic
import Reattempt.Duration.Basic

/-!
# Callers' code

A run calls four pieces of code that it does not know: the operation, the cancellation check, the
notifier and the classifier. Each may depend on everything that happened before, here a state that
they all share, and each call returns or panics.
-/

namespace Reattempt

/-- What a panic carries: a text, or something of which nothing is known. It is assumed that to
dispose of a payload does not panic again. -/
inductive Payload where
  | text (s : String)
  | other
  deriving DecidableEq

def Payload.message : Payload → String
  | text s => s
  | other => "Box<dyn Any>"

/-- How a call ends. -/
inductive Reply (β : Type) where
  | returned (b : β)
  | panicked (payload : Payload)

namespace Reply

variable {β γ : Type}

def map (f : β → γ) : Reply β → Reply γ
  | returned b => returned (f b)
  | panicked payload => panicked payload

def erase (r : Reply β) : Reply Unit := r.map fun _ => ()

end Reply

/-- The failure that a panic of a caller's code becomes. -/
def Failure.ofPayload (payload : Payload) : Failure := .panic payload.message

/-- Says, at each poll, whether the client is gone. -/
structure Check (σ : Type) where
  poll : StateM σ (Reply Bool)

/-- How far a begun operation has come after being polled. -/
inductive Progress (φ α : Type) where
  /-- Not finished. It wants to be polled again after the given time. -/
  | pending (next : φ) (pause : Duration)
  /-- Finished with a value or a failure, or by a panic. -/
  | done (reply : Reply (Except Failure α))

/-- The action to be retried: a call begins it, polls drive it on. -/
structure Operation (σ φ α : Type) where
  call : StateM σ (Reply φ)
  poll : φ → StateM σ (Progress φ α)

end Reattempt
