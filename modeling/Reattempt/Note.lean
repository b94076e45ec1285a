import Reattempt.Noted
import Reattempt.Outcome.Basic
import Reattempt.Callable.Basic

/-!
# Notes of a run

What a run does, as seen from outside: the code it calls and the answers it gets, what it asks of
its scheduler, what it settles with, and its log entries.
-/

namespace Reattempt

/-- One thing that a run does. -/
inductive Act (α : Type) where
  | submitted
  | checked (reply : Reply Bool)
  | called (reply : Reply Unit)
  /-- The begun operation was polled; there is no reply while it is pending. -/
  | polled (reply : Option (Reply (Except Failure α)))
  | notified (cause : Failure) (reply : Reply Unit)
  | classified (cause : Failure) (reply : Reply Bool)
  /-- The next attempt was asked for after a delay. -/
  | requested (delay : Duration)
  | settled (outcome : Outcome α)

/-- A note of a run. -/
inductive Note (α : Type) where
  | act (a : Act α)
  | log (entry : Log.Entry)

namespace Note

variable {α : Type}

/-- The act that a note reports, if it reports one. -/
def act? : Note α → Option (Act α)
  | act a => some a
  | log _ => none

def entry? : Note α → Option Log.Entry
  | act _ => none
  | log entry => some entry

end Note

/-- Writes a log entry in the spans of the computation. -/
def Noted.log {α σ : Type} (event : Log.Event) : Noted (Note α) σ Unit := do
  let path ← Noted.spans
  Noted.note (.log ⟨event, path⟩)

@[simp] theorem Noted.run_log {α σ : Type} (event : Log.Event) (path : List Log.Span) (s : σ) :
    (Noted.log event : Noted (Note α) σ Unit).run path s = ⟨(), [.log ⟨event, path⟩], s⟩ := rfl

end Reattempt
