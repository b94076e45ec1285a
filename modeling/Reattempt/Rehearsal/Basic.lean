import Reattempt.Config.Draft
import Reattempt.Scripted.Observers
import Reattempt.Scripted.Stand

/-!
# Rehearsals

A rehearsal keeps objects under names: drafts, configurations, handles of runs, and schedulers of
several modes. All schedulers put their work on one clock, which moves only when it is told to.
-/

namespace Reattempt.Rehearsal

open Scripted

variable {α : Type}

/-- How a scheduler treats work. -/
inductive Mode where
  | faithful
  | shared
  | forgetful
  | deaf
  | broken
  | brokenSubmit
  deriving DecidableEq

def Mode.scheduler {ω : Type} : Mode → Scheduler ω (Clock ω)
  | faithful => .onClock
  | shared => Scheduler.onClock.shared
  | forgetful => Scheduler.onClock.forgetful
  | deaf => .deaf
  | broken => Scheduler.onClock.broken
  | brokenSubmit => Scheduler.onClock.brokenSubmit

/-- The event that a request is recorded as. -/
def requestEvent : Request → Event
  | .now => .submitted
  | .after delay => .scheduled delay

/-- A desk whose scheduler records its requests as events before it treats them by its mode. -/
def Mode.desk (mode : Mode) : Desk Fixture (Playing α) where
  scheduler :=
    (mode.scheduler.focus Prod.fst fun clock s => (clock, s.2)).observed
      fun request s => (s.1, s.2.add (requestEvent request))
  record := .empty

/-- What can be kept under a name. -/
inductive Object (α : Type) where
  | unassigned (d : Draft Fixture (Playing α) α Unassigned)
  | unscheduled (d : Draft Fixture (Playing α) α Unscheduled)
  | scheduled (d : Draft Fixture (Playing α) α Scheduled)
  | config (c : Config Fixture (Playing α) α)
  | handle (run : Nat)
  | share (run : Nat)

/-- The state of a rehearsal. -/
structure State (α : Type) where
  stand : Stand α
  objects : List (String × Object α)
  /-- The names of the schedulers and their numbers. -/
  schedulers : List (String × Nat)

/-- The scheduler that is there from the start. -/
def mainScheduler : String := "main"

namespace State

def init : State α :=
  ⟨⟨.init .init, .init, [Mode.faithful.desk]⟩, [], [(mainScheduler, 0)]⟩

def get? (s : State α) (name : String) : Option (Object α) := s.objects.lookup name

/-- The number of the scheduler under a name. -/
def scheduler? (s : State α) (name : String) : Option Nat := s.schedulers.lookup name

/-- The state after an object is let go of. A handle counts as an observer of its run. -/
def release (s : State α) : Object α → State α
  | .handle run | .share run =>
    { s with stand := { s.stand with roster := s.stand.roster.removeObserver run } }
  | _ => s

/-- The state without the object under a name. -/
def erase (s : State α) (name : String) : State α :=
  match s.get? name with
  | none => s
  | some object =>
    let s := s.release object
    { s with objects := s.objects.filter fun entry => entry.1 != name }

/-- The state with an object under a name, in place of the one that was there. -/
def put (s : State α) (name : String) (object : Object α) : State α :=
  let s := s.erase name
  { s with objects := (name, object) :: s.objects }

def newCounter (s : State α) : Nat × State α :=
  let (counter, f) := s.stand.fixture.newCounter
  (counter, { s with stand := s.stand.withFixture f })

end State

/-- A copy of what was built under a name. -/
def Object.copy : Object α → Object α
  | unassigned d => unassigned d.copy
  | unscheduled d => unscheduled d.copy
  | scheduled d => scheduled d.copy
  | config c => config c.copy
  | handle run => handle run
  | share run => share run

/-- The shape of what was built under a name. -/
def Object.shape? : Object α → Option Shape
  | unassigned d => some (d.shape d.stage.shape)
  | unscheduled d => some (d.shape d.stage.shape)
  | scheduled d => some (d.shape d.stage.shape)
  | config c => some c.shape
  | handle _ => none
  | share _ => none

end Reattempt.Rehearsal
