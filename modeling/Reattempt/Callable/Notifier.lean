import Reattempt.Note

/-!
# Notifiers

A notifier is shown the cause of every failed attempt. It cannot change the outcome: a panic inside
it is logged and goes no further.
-/

namespace Reattempt

/-- An observer of causes. -/
structure Notifier (σ : Type) where
  consumer : Failure → StateM σ (Reply Unit)

namespace Notifier

variable {σ α : Type}

/-- Hands a cause to the notifier and contains its panic. -/
def notify (n : Notifier σ) (cause : Failure) : Noted (Note α) σ Unit := do
  match ← Noted.ask (n.consumer cause) (fun reply => .act (.notified cause reply)) with
  | .returned () => pure ()
  | .panicked payload =>
    Noted.log (.notifierPanicked (Failure.ofPayload payload).text payload.message)

/-- The shape of a notifier, which shows nothing of its consumer. -/
def shape (_ : Notifier σ) : Shape := .hidden "ErrorNotifier"

end Notifier

end Reattempt
