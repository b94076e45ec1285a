import Reattempt.Config.Draft
import Reattempt.Scripted.Observers
import Reattempt.Scripted.Stand

/-!
# Trials

A trial performs whole runs of a scripted operation on a clock that moves to the next timer when
there is nothing else to do. No timer waits longer than thirty years. The runs follow one another.
Each is awaited; before that a switch may be flipped at a given time, or everything may be shut
down.
-/

namespace Reattempt

open Scripted

/-- What is done to a run before it is awaited. -/
inductive Trial.Interference where
  | none
  /-- Some time after the start of the run, its switch is flipped. -/
  | cancelAfter (delay : Duration) (switch : Option String)
  /-- Some time after the start of the run, all work is dropped, and no further run follows. -/
  | shutdownAfter (delay : Duration)

/-- The runs to be performed. -/
structure Trial (α : Type) where
  action : String
  session : String
  script : Script α
  check : CheckScript
  classifier : Option ClassifierScript
  notifier : Option NotifierScript
  backoff : Option Backoff
  runs : Nat
  interference : Trial.Interference

namespace Trial

variable {α β : Type}

/-- What happens in a trial: notes of runs, and events of scripted code with their time. -/
inductive Moment (α : Type) where
  | line (l : Line α)
  | event (time : Nat) (e : Event)

/-- What a trial leaves: the outcome of each run, the final bench, and all that happened. -/
structure Report (α : Type) where
  outcomes : List (Outcome α)
  /-- The time at the end, unless everything was shut down. -/
  elapsed : Option Nat
  moments : List (Moment α)
  record : Record

/-- Passes on the events that scripted code has recorded, with the present time. -/
def collect : Noted (Moment α) (Stand α) Unit := do
  let time := (← get).clock.now
  let events ← modifyGet fun (b : Stand α) => b.drain
  events.forM fun e => Noted.note (.event time e)

/-- Performs something on the bench and then collects the events. -/
def perform (x : Noted (Line α) (Stand α) β) : Noted (Moment α) (Stand α) β := do
  let b ← Noted.focus id (fun b _ => b) Moment.line x
  collect
  pure b

/-- The longest time that a timer waits: thirty years of 365 days. -/
def longestWait : Duration := .ofSecs (30 * 365 * 24 * 60 * 60)

/-- Polls the first work that is ready. Pending operations are polled again when they want it. -/
def turn : Noted (Moment α) (Stand α) Unit := do
  let _ ← perform (Bench.tick fun clock pause w => clock.pause (pause.atMost longestWait) w)

/-- Lets work run, and time pass from timer to timer, until the run is over or nothing is left
to do. -/
def settle (run : Nat) : Nat → Noted (Moment α) (Stand α) Unit
  | 0 => pure ()
  | fuel + 1 => do
    let b ← get
    if (b.roster.outcome? run).isSome then pure ()
    else if b.clock.ready.isEmpty then
      match b.clock.jump? with
      | none => pure ()
      | some (_, clock) =>
        set { b with clock := clock }
        settle run fuel
    else
      turn
      settle run fuel

/-- Lets work run, and time pass from timer to timer, up to the given time. Work that is due at that
time, or not run before it, still waits. -/
def runUntil (time : Nat) : Nat → Noted (Moment α) (Stand α) Unit
  | 0 => pure ()
  | fuel + 1 => do
    let b ← get
    if time ≤ b.clock.now then pure ()
    else if b.clock.ready.isEmpty then
      if b.clock.timers.head?.any fun timer => timer.1 < time then
        match b.clock.jump? with
        | none => pure ()
        | some (_, clock) =>
          set { b with clock := clock }
          runUntil time fuel
      else
        set { b with clock := { b.clock with now := time } }
    else
      turn
      runUntil time fuel

/-- What a run has come to when it is awaited and nothing is left to do: without an answer it has
lost its work. -/
def awaited (b : Stand α) (run : Nat) : Outcome α :=
  (b.roster.outcome? run).getD (.error .interrupted)

/-- Performs runs one after another, and says whether everything was shut down. -/
def performRuns (t : Trial α) (config : Config Fixture (Playing α) α) (fuel : Nat) :
    Nat → Noted (Moment α) (Stand α) (List (Outcome α) × Bool)
  | 0 => pure ([], false)
  | left + 1 => do
    match ← perform (Bench.launch config) with
    | .error _ => pure ([], false)
    | .ok run =>
      let now := (← get).clock.now
      Noted.note (.event now .launched)
      match t.interference with
      | .shutdownAfter delay =>
        runUntil (now + (delay.atMost longestWait).nanos) fuel
        modify fun b => b.shutdown.2
        pure ([awaited (← get) run], true)
      | .cancelAfter delay switch =>
        let time := now + (delay.atMost longestWait).nanos
        runUntil time fuel
        modify fun b => match switch with
          | some switch => b.cancel switch
          | none => b
        Noted.note (.event time .switched)
        settle run fuel
        let outcome := awaited (← get) run
        let (rest, shut) ← performRuns t config fuel left
        pure (outcome :: rest, shut)
      | .none =>
        settle run fuel
        let outcome := awaited (← get) run
        let (rest, shut) ← performRuns t config fuel left
        pure (outcome :: rest, shut)

/-- The configuration of a trial, and the fixture of its scripted code. -/
def configure (t : Trial α) : Config Fixture (Playing α) α × Fixture :=
  let (calls, f) := Fixture.init.newCounter
  let (polls, f) := f.newCounter
  let (judged, f) := f.newCounter
  let (noticed, f) := f.newCounter
  let ready := ((Draft.ofAction t.action (t.script.operation calls)
    (t.check.check polls)).forSession t.session).onScheduler 0
  let ready := match t.classifier with
    | some s => ready.setClassifier (s.classifier judged)
    | none => ready
  let ready := match t.notifier with
    | some s => ready.setNotifier (s.notifier noticed)
    | none => ready
  let ready := match t.backoff with
    | some table => ready.setBackoff table
    | none => ready
  (ready.toConfig, f)

/-- Performs a trial on one recording scheduler in front of the clock. The number of steps that
each run may take is bounded by the length of the script. -/
def report (t : Trial α) : Report α :=
  let (config, fixture) := t.configure
  let desk : Desk Fixture (Playing α) :=
    ⟨(Scheduler.onClock.capped longestWait).focus Prod.fst fun c s => (c, s.2), .empty⟩
  let bench : Stand α := ⟨.init fixture, .init, [desk]⟩
  let fuel := t.script.length + 8 * (t.runs + 1)
  let told := (t.performRuns config fuel t.runs).run [] bench
  { outcomes := told.value.1
    elapsed := if told.value.2 then none else some told.state.clock.now
    moments := told.notes
    record := (told.state.desks.head?.map fun d => d.record).getD .empty }

/-- The events of a trial with their times. -/
def Report.events (r : Report α) : List (Nat × Event) :=
  r.moments.filterMap fun
    | .line _ => none
    | .event time e => some (time, e)

def Report.log (r : Report α) : List Log.Entry :=
  r.moments.filterMap fun
    | .line l => l.note.entry?
    | .event _ _ => none

end Trial

end Reattempt
