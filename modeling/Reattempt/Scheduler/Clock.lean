import Reattempt.Scheduler.Basic

/-!
# The virtual clock

Work waits in a queue of what is ready, among what is parked until it is woken, or behind a timer.
Time moves only when it is told to. It is counted in nanoseconds from zero and has no bound.
-/

namespace Reattempt

/-- The time, and the work that waits for something. -/
structure Clock (ω : Type) where
  now : Nat
  ready : List ω
  parked : List ω
  /-- Work and when it is due, by due time and then by order of scheduling. -/
  timers : List (Nat × ω)

namespace Clock

variable {ω : Type}

def init : Clock ω := ⟨0, [], [], []⟩

/-- Puts work behind all that is due no later. -/
def insertTimer (due : Nat) (w : ω) : List (Nat × ω) → List (Nat × ω)
  | [] => [(due, w)]
  | timer :: rest =>
    if timer.1 ≤ due then timer :: insertTimer due w rest else (due, w) :: timer :: rest

def submit (c : Clock ω) (w : ω) : Clock ω := { c with ready := c.ready ++ [w] }

/-- Puts work behind a timer that is due after the delay. The timer is set at once. -/
def schedule (c : Clock ω) (delay : Duration) (w : ω) : Clock ω :=
  { c with timers := insertTimer (c.now + delay.nanos) w c.timers }

/-- Puts work aside until it is woken. -/
def park (c : Clock ω) (w : ω) : Clock ω := { c with parked := c.parked ++ [w] }

/-- Puts work where it is found again after a pause: a pause of no length makes it ready. -/
def pause (c : Clock ω) (length : Duration) (w : ω) : Clock ω :=
  if length = .zero then c.submit w else c.schedule length w

def takeReady? (c : Clock ω) : Option (ω × Clock ω) :=
  match c.ready with
  | [] => none
  | w :: rest => some (w, { c with ready := rest })

/-- Makes all parked work ready, and counts it. -/
def wake (c : Clock ω) : Nat × Clock ω :=
  (c.parked.length, { c with ready := c.ready ++ c.parked, parked := [] })

/-- Makes the work of all due timers ready, and counts it. -/
def fire (c : Clock ω) : Nat × Clock ω :=
  let due := c.timers.takeWhile fun timer => timer.1 ≤ c.now
  (due.length, { c with
    ready := c.ready ++ due.map Prod.snd
    timers := c.timers.dropWhile fun timer => timer.1 ≤ c.now })

/-- Moves time on, and makes what is then due ready. -/
def advance (c : Clock ω) (elapsed : Nat) : Nat × Clock ω := { c with now := c.now + elapsed }.fire

/-- Moves time to the first timer, if there is one, and makes what is then due ready. -/
def jump? (c : Clock ω) : Option (Nat × Clock ω) :=
  c.timers.head?.map fun timer => { c with now := timer.1 }.fire

def waiting (c : Clock ω) : List ω := c.ready ++ c.parked ++ c.timers.map Prod.snd

def clear (c : Clock ω) : Clock ω := { c with ready := [], parked := [], timers := [] }

end Clock

/-- The scheduler that puts work on the clock and loses none. One that starts a task for delayed
work, which first sleeps and then runs the work, is meant by this too: start and sleep are folded
into one timer, which is set at the instant of the request. -/
def Scheduler.onClock {ω : Type} : Scheduler ω (Clock ω) where
  take
    | .now, w, c => (.kept, c.submit w)
    | .after delay, w, c => (.kept, c.schedule delay w)

end Reattempt
