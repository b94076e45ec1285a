import Reattempt.Config.Draft
import Reattempt.Roster
import Reattempt.Scheduler.Clock
import Reattempt.Scheduler.Recorder

/-!
# The bench

Runs are driven on a bench: a roster, a clock, and recording schedulers that put work on the
clock or lose it. Work is taken from the clock one unit at a time. Work that a scheduler loses is
dropped, which interrupts its run.
-/

namespace Reattempt

/-- A unit of work: an attempt of a run, or something of a caller's own. -/
inductive Work (σ φ : Type) where
  | attempt (ticket : Ticket φ)
  | errand (effect : σ → σ)

/-- A scheduler behind a recorder, with what the recorder remembers. -/
structure Desk (σ φ : Type) where
  scheduler : Scheduler (Work σ φ) (Clock (Work σ φ) × σ)
  record : Record

/-- All that runs need in order to be driven. -/
structure Bench (σ φ α : Type) where
  roster : Roster σ φ α
  clock : Clock (Work σ φ)
  desks : List (Desk σ φ)

/-- What becomes of a unit of work that is polled. -/
inductive Tick where
  | idle
  | done
  | pending
  | panicked (payload : Payload)
  deriving DecidableEq

namespace Bench

variable {σ φ α β : Type}

/-- Runs a computation on the roster of a bench. -/
def onRoster (x : Noted (Line α) (Roster σ φ α) β) :
    Noted (Line α) (Bench σ φ α) β :=
  Noted.focus (fun b => b.roster) (fun c b => { b with roster := c }) id x

/-- The bench without a unit of work, whose run is interrupted if it has one. -/
def drop (b : Bench σ φ α) : Work σ φ → Bench σ φ α
  | .attempt ticket => { b with roster := b.roster.drop ticket }
  | .errand _ => b

/-- Hands work to a desk. Work that is not kept is dropped. -/
def request (b : Bench σ φ α) (desk : Nat) (when : Request) (w : Work σ φ) :
    Fate × Bench σ φ α :=
  match b.desks[desk]? with
  | none => (.lost, b.drop w)
  | some d =>
    let (fate, record, clock, env) :=
      d.scheduler.recording.take when w (d.record, b.clock, b.roster.env)
    let after := { b with
      roster := { b.roster with env := env }
      clock := clock
      desks := b.desks.set desk { d with record := record } }
    match fate with
    | .kept => (.kept, after)
    | fate => (fate, after.drop w)

/-- Starts a run and submits its first attempt. Gives the number of the run, or the panic of its
scheduler, with which the run's handle is lost. -/
def launch (config : Config σ φ α) : Noted (Line α) (Bench σ φ α) (Except Payload Nat) := do
  let ticket ← onRoster (Roster.launch config)
  match ← modifyGet fun b => b.request config.scheduler .now (.attempt ticket) with
  | .panicked payload =>
    modify fun b => { b with roster := b.roster.removeObserver ticket.run }
    pure (.error payload)
  | _ => pure (.ok ticket.run)

/-- Starts a run of the configuration that a draft has come to. -/
def launchDraft (d : Draft σ φ α Scheduled) :
    Noted (Line α) (Bench σ φ α) (Except Payload Nat) :=
  launch d.toConfig

/-- Polls the first unit of work that is ready. Where its operation is pending, `suspend` says
where the work waits. -/
def tick (suspend : Clock (Work σ φ) → Duration → Work σ φ → Clock (Work σ φ)) :
    Noted (Line α) (Bench σ φ α) Tick := do
  match (← get).clock.takeReady? with
  | none => pure .idle
  | some (w, clock) =>
    modify fun b => { b with clock := clock }
    match w with
    | .errand effect =>
      modify fun b => { b with
        roster := { b.roster with env := effect b.roster.env } }
      pure .done
    | .attempt ticket =>
      match ← onRoster (Roster.drive ticket) with
      | .finished => pure .done
      | .suspended ticket pause =>
        modify fun b => { b with clock := suspend b.clock pause (.attempt ticket) }
        pure .pending
      | .handedOver delay next =>
        let scheduler := ((← get).roster.runs[ticket.run]?.map fun r =>
          r.config.scheduler).getD 0
        match ← modifyGet fun b => b.request scheduler (.after delay) (.attempt next) with
        | .panicked payload => pure (.panicked payload)
        | _ => pure .done

def shutdown (b : Bench σ φ α) : Nat × Bench σ φ α :=
  (b.clock.waiting.length, b.clock.waiting.foldl drop { b with clock := b.clock.clear })

end Bench

end Reattempt
