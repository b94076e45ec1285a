import Reattempt.Attempt

/-!
# The roster

The roster knows all runs, and what callers' code shares. Starting a run gives a ticket: the
right to make the run's next attempt, which is handed to a scheduler as a unit of work. Whoever
holds the ticket may drive the attempt, which gives the ticket back, passes it on to the next
attempt, or settles the run; or drop it, which interrupts the run.
-/

namespace Reattempt

/-- How far the attempt of a ticket has come. -/
inductive Stage (φ : Type) where
  | queued
  | underway (operation : φ)

/-- The right to make one attempt of a run. -/
structure Ticket (φ : Type) where
  run : Nat
  attempt : UInt32
  stage : Stage φ

/-- What the observers of a run can see. -/
inductive Slot (α : Type) where
  | waiting
  | settled (outcome : Outcome α)
  | interrupted

/-- What observers are told, if they are told anything yet. -/
def Slot.outcome? {α : Type} : Slot α → Option (Outcome α)
  | waiting => none
  | settled outcome => some outcome
  | interrupted => some (.error .interrupted)

/-- One execution of a configuration. -/
structure Run (σ φ α : Type) where
  config : Config σ φ α
  /-- The spans in which the run was started. -/
  parent : List Log.Span
  slot : Slot α
  /-- The number of those who hold the run's handle or a share of it. -/
  observers : Nat

/-- The spans of an attempt: those in which the run was started, and one of its own. -/
def Run.path {σ φ α : Type} (run : Run σ φ α) (attempt : UInt32) : List Log.Span :=
  run.parent ++ [.attempt run.config.session run.config.action attempt]

/-- The state of all runs. A run is known by its place in the list. -/
structure Roster (σ φ α : Type) where
  /-- What callers' code shares. -/
  env : σ
  runs : List (Run σ φ α)

/-- A note of a run, with the number of the run. -/
structure Line (α : Type) where
  run : Nat
  note : Note α

/-- What driving a ticket comes to. -/
inductive Driven (φ : Type) where
  /-- The operation is pending, and the ticket is still in use. -/
  | suspended (ticket : Ticket φ) (pause : Duration)
  /-- The run has settled and the ticket is used up. -/
  | finished
  /-- The ticket of the next attempt, which is wanted after the given delay. -/
  | handedOver (delay : Duration) (ticket : Ticket φ)

namespace Roster

variable {σ φ α : Type}

def init (env : σ) : Roster σ φ α := ⟨env, []⟩

/-- What the observers of a run are told, if they are told anything yet. -/
def outcome? (c : Roster σ φ α) (run : Nat) : Option (Outcome α) :=
  c.runs[run]?.bind fun r => r.slot.outcome?

def observers (c : Roster σ φ α) (run : Nat) : Nat :=
  (c.runs[run]?.map fun r => r.observers).getD 0

def modifyRun (c : Roster σ φ α) (run : Nat) (f : Run σ φ α → Run σ φ α) :
    Roster σ φ α :=
  { c with runs := c.runs.modify run f }

def addRun (c : Roster σ φ α) (run : Run σ φ α) : Roster σ φ α :=
  { c with runs := c.runs ++ [run] }

/-- One more observer holds the run's handle. -/
def addObserver (c : Roster σ φ α) (run : Nat) : Roster σ φ α :=
  c.modifyRun run fun r => { r with observers := r.observers + 1 }

/-- One observer of the run lets go. -/
def removeObserver (c : Roster σ φ α) (run : Nat) : Roster σ φ α :=
  c.modifyRun run fun r => { r with observers := r.observers - 1 }

/-- Drops the ticket of a run, which interrupts the run. -/
def drop (c : Roster σ φ α) (ticket : Ticket φ) : Roster σ φ α :=
  c.modifyRun ticket.run fun r => { r with slot := .interrupted }

/-- Runs an attempt's computation on what callers' code shares, and marks its notes with the
run. -/
def onEnv {β : Type} (run : Nat) (x : Noted (Note α) σ β) :
    Noted (Line α) (Roster σ φ α) β :=
  Noted.focus (fun c => c.env) (fun env c => { c with env := env }) (Line.mk run) x

/-- Starts a run in the spans of the caller, and gives the ticket of its first attempt, which is
to be submitted. -/
def launch (config : Config σ φ α) : Noted (Line α) (Roster σ φ α) (Ticket φ) := do
  let parent ← Noted.spans
  let run ← modifyGet fun c => (c.runs.length, c.addRun ⟨config.copy, parent, .waiting, 1⟩)
  Noted.note (Line.mk run (.act .submitted))
  pure ⟨run, 1, .queued⟩

/-- Settles a run. If nobody is left to be told, that is all that is said. -/
def settle (run : Nat) (outcome : Outcome α) : Noted (Line α) (Roster σ φ α) Unit := do
  Noted.note (Line.mk run (.act (.settled outcome)))
  modify fun c => c.modifyRun run fun r => { r with slot := .settled outcome }
  if (← get).observers run = 0 then
    onEnv run (Noted.log .handleDropped)
  else
    pure ()

/-- Drives the attempt of a ticket, in the spans of that attempt whatever spans surround it. -/
def drive (ticket : Ticket φ) : Noted (Line α) (Roster σ φ α) (Driven φ) := do
  match (← get).runs[ticket.run]? with
  | none => pure .finished
  | some run =>
    Noted.within (run.path ticket.attempt) do
      let step ← onEnv ticket.run <| match ticket.stage with
        | .queued => run.config.start ticket.attempt
        | .underway operation => run.config.resume ticket.attempt operation
      match step with
      | .suspended operation pause =>
        pure (.suspended { ticket with stage := .underway operation } pause)
      | .settled outcome =>
        settle ticket.run outcome
        pure .finished
      | .retry delay =>
        Noted.note (Line.mk ticket.run (.act (.requested delay)))
        pure (.handedOver delay ⟨ticket.run, ticket.attempt + 1, .queued⟩)

end Roster

end Reattempt
