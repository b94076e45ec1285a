import Reattempt.Callable.Basic

/-!
# Schedulers

A scheduler is handed units of work, to be run at once or after a delay. It keeps the work, loses
it, or panics, in which case the work is lost too. Schedulers act on a state of their own, and one
can be put in front of another.
-/

namespace Reattempt

/-- When work is to be run. -/
inductive Request where
  | now
  | after (delay : Duration)
  deriving DecidableEq

/-- What becomes of work that a scheduler is handed. -/
inductive Fate where
  | kept
  | lost
  | panicked (payload : Payload)
  deriving DecidableEq

/-- Takes units of work of type `ω` and acts on a state of type `S`. -/
structure Scheduler (ω S : Type) where
  take : Request → ω → S → Fate × S

namespace Scheduler

variable {ω S T : Type}

/-- One more handle on a scheduler changes nothing. -/
def shared (inner : Scheduler ω S) : Scheduler ω S := ⟨fun request w s => inner.take request w s⟩

/-- A scheduler that acts on a part of a larger state. -/
def focus (get : T → S) (put : S → T → T) (inner : Scheduler ω S) : Scheduler ω T :=
  ⟨fun request w t =>
    let (fate, s) := inner.take request w (get t)
    (fate, put s t)⟩

/-- Lets `see` change the state for every request before it is passed on. -/
def observed (see : Request → S → S) (inner : Scheduler ω S) : Scheduler ω S :=
  ⟨fun request w s => inner.take request w (see request s)⟩

/-- Delays no work for longer than `limit`. -/
def capped (limit : Duration) (inner : Scheduler ω S) : Scheduler ω S where
  take
    | .now, w, s => inner.take .now w s
    | .after delay, w, s => inner.take (.after (delay.atMost limit)) w s

def forgetful (inner : Scheduler ω S) : Scheduler ω S where
  take
    | .now, w, s => inner.take .now w s
    | .after _, _, s => (.lost, s)

def deaf : Scheduler ω S := ⟨fun _ _ s => (.lost, s)⟩

/-- Panics where it is handed delayed work. -/
def broken (inner : Scheduler ω S) : Scheduler ω S where
  take
    | .now, w, s => inner.take .now w s
    | .after _, _, s => (.panicked (.text "schedule_after is broken"), s)

/-- Panics where it is handed work to be run at once. -/
def brokenSubmit (inner : Scheduler ω S) : Scheduler ω S where
  take
    | .now, _, s => (.panicked (.text "submit is broken"), s)
    | .after delay, w, s => inner.take (.after delay) w s

end Scheduler

end Reattempt
