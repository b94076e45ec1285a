import Reattempt.Callable.Basic

/-!
# The fixture

What scripted callers' code shares: a counter for each piece of it, the switches that have been
flipped, and the events that it recorded.
-/

namespace Reattempt.Scripted

/-- What scripted code, and what surrounds it, records. -/
inductive Event where
  /-- The check of an operation was polled for the `n`-th time. -/
  | checked (operation : String) (n : Nat) (reply : Reply Bool)
  /-- An operation was called for the `n`-th time. -/
  | called (operation : String) (n : Nat)
  /-- The `n`-th call of an operation came to its end. -/
  | settled (operation : String) (n : Nat)
  | notified (label : String) (n : Nat) (cause : Failure)
  /-- A classifier was asked about its `n`-th cause. -/
  | classified (label : String) (n : Nat) (cause : Failure)
  /-- A scheduler was handed work to be run at once. -/
  | submitted
  /-- A scheduler was handed work to be run after a delay. -/
  | scheduled (delay : Duration)
  | worked (label : String)
  | launched
  /-- The switch of a run was flipped from outside. -/
  | switched

/-- The state of scripted code. -/
structure Fixture where
  /-- How often each counted piece of code was called. -/
  calls : List Nat
  cancelled : List String
  /-- The recorded events, the oldest first. -/
  events : List Event

namespace Fixture

def init : Fixture := ⟨[], [], []⟩

def newCounter (f : Fixture) : Nat × Fixture :=
  (f.calls.length, { f with calls := f.calls ++ [0] })

/-- Counts a call, and says how many there were with it. -/
def count (counter : Nat) : StateM Fixture Nat :=
  modifyGet fun f =>
    let n := f.calls.getD counter 0 + 1
    (n, { f with calls := f.calls.set counter n })

def add (f : Fixture) (event : Event) : Fixture := { f with events := f.events ++ [event] }

def record (event : Event) : StateM Fixture Unit := modify fun f => f.add event

/-- Flips a switch, which stays flipped. -/
def cancel (f : Fixture) (switch : String) : Fixture :=
  if f.cancelled.contains switch then f else { f with cancelled := switch :: f.cancelled }

def isCancelled (f : Fixture) (switch : String) : Bool := f.cancelled.contains switch

/-- The recorded events, and the fixture without them. -/
def drain (f : Fixture) : List Event × Fixture := (f.events, { f with events := [] })

def switchShape (cancelled : Bool) : Shape :=
  .record "ManualCancellation" [("cancelled", .truth cancelled)] true

end Fixture

end Reattempt.Scripted
