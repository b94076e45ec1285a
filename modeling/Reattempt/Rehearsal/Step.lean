import Reattempt.Backoff.Written
import Reattempt.Rehearsal.Basic

/-!
# Steps of a rehearsal

Each step works on named objects, or on the clock and its work, and has a result. The events and
log entries that it causes are listed beside the result.
-/

namespace Reattempt.Rehearsal

open Scripted

variable {α β : Type}

/-- A step. `source` names the object it starts from, `target` the name of what it makes. -/
inductive Step (α : Type) where
  | newDraft (target action : String) (script : Script α) (check : CheckScript)
  | nameSession (source target session : String)
  | newScheduler (target : String) (mode : Mode)
  | chooseScheduler (source target scheduler : String)
  | chooseCurrent (source : String)
  | currentSchedulers
  | setNotifier (source target : String) (notifier : NotifierScript)
  | removeNotifier (source target : String)
  | setClassifier (source target : String) (classifier : ClassifierScript)
  | setPredicate (source target : String) (classifier : ClassifierScript)
  | setBackoff (source target : String) (table : Except Backoff.ReadError Backoff)
  | freeze (source target : String)
  | copy (source target : String)
  | shape (source : String)
  | describe (source : String)
  | launch (source target : String) (span : Option String)
  | share (source target : String)
  | drop (source : String)
  | poll (source : String)
  | tick
  | tickAll
  | wake
  | advance (delay : Duration)
  | next
  | finish
  | shutdown
  | state
  | recorded (scheduler : String)
  | submit (scheduler label : String)
  | schedule (scheduler label : String) (delay : Duration)
  | flip (switch : String)
  | readSwitch (switch : String)

/-- What is visible of the clock. -/
structure Snapshot where
  now : Nat
  ready : Nat
  parked : Nat
  timers : List Nat

/-- The result of a step. -/
inductive Result (α : Type) where
  | nothing
  /-- There is no scheduler, or there are several that are not there. -/
  | missing (e : ConfigError)
  | allMissing (es : List ConfigError)
  | noTable (e : Backoff.ReadError)
  | shape (s : Shape)
  | action (action : String)
  | settings (action session : String) (waits : List Duration)
  | panicked (payload : Payload)
  | absent
  | pending
  | outcome (o : Outcome α)
  | tick (t : Tick)
  | ticks (ts : List Tick)
  | count (n : Nat)
  | noTimers
  | finished (jumps : Nat) (s : Snapshot)
  | snapshot (s : Snapshot)
  | record (r : Record)
  /-- What a switch, its check and its copy say, and its shape. -/
  | switch (cancelled : List Bool) (shape : Shape)

/-- The name under which a label given to a run's surroundings appears. -/
def outerSpan (label : String) : Log.Span := .caller "outer" [("label", label)]

def Snapshot.of {ω : Type} (c : Clock ω) : Snapshot :=
  ⟨c.now, c.ready.length, c.parked.length, c.timers.map Prod.fst⟩

abbrev Effect (α β : Type) := Noted (Line α) (State α) β

namespace State

def onStand (x : Noted (Line α) (Stand α) β) : Effect α β :=
  Noted.focus (fun s => s.stand) (fun stand s => { s with stand := stand }) id x

def object (name : String) : Effect α (Option (Object α)) := return (← get).get? name

def store (name : String) (object : Object α) : Effect α (Result α) := do
  modify fun s => s.put name object
  pure .nothing

/-- Changes a draft in its last stage and stores it under another name. -/
def derive (source target : String)
    (f : Draft Fixture (Playing α) α Scheduled → Draft Fixture (Playing α) α Scheduled) :
    Effect α (Result α) := do
  match ← object source with
  | some (.scheduled d) => store target (.scheduled (f d))
  | _ => pure .nothing

/-- Starts a run in a span of the caller, if one is named, and stores its handle. -/
def launch (start : Noted (Line α) (Stand α) (Except Payload Nat)) (target : String)
    (span : Option String) : Effect α (Result α) := do
  let path := span.toList.map outerSpan
  match ← onStand (Noted.within path start) with
  | .ok run => store target (.handle run)
  | .error payload => pure (.panicked payload)

/-- Asks for the outcome of a run. Once it is told, the name is free. -/
def ask (name : String) (run : Nat) : Effect α (Result α) := do
  match (← get).stand.roster.outcome? run with
  | none => pure .pending
  | some o =>
    modify fun s => s.erase name
    pure (.outcome o)

/-- Polls the first ready work. Pending work is parked. -/
def tick : Effect α Tick := onStand (Bench.tick fun clock _ w => clock.park w)

/-- Polls ready work the given number of times. -/
def ticks : Nat → Effect α (List Tick)
  | 0 => pure []
  | n + 1 => do
    let first ← tick
    let rest ← ticks n
    pure (first :: rest)

/-- Polls all ready work. Polled work is parked, finished or behind a timer, so none of it is
ready again. -/
def tickAll : Effect α (List Tick) := do
  ticks (← get).stand.clock.ready.length

def onClock (f : Clock (Work Fixture (Playing α)) → Nat × Clock (Work Fixture (Playing α))) :
    Effect α Nat :=
  modifyGet fun s =>
    let (n, clock) := f s.stand.clock
    (n, { s with stand := { s.stand with clock := clock } })

/-- Moves to the first timer, if there is one, and counts what becomes ready. -/
def next : Effect α (Option Nat) := do
  match (← get).stand.clock.jump? with
  | none => pure none
  | some (n, clock) =>
    modify fun s => { s with stand := { s.stand with clock := clock } }
    pure (some n)

/-- Polls all ready work and moves to the next timer, until there are no timers or the given
number of moves is made. Counts the moves. -/
def finish : Nat → Effect α Nat
  | 0 => do
    let _ ← tickAll
    pure 0
  | left + 1 => do
    let _ ← tickAll
    match ← next with
    | none => pure 0
    | some _ => return (← finish left) + 1

/-- The greatest number of moves that finishing makes. -/
def maxJumps : Nat := 1000

/-- Hands a caller's own work to a scheduler. -/
def hand (scheduler label : String) (when : Request) : Effect α (Result α) := do
  match (← get).scheduler? scheduler with
  | none => pure .nothing
  | some desk =>
    let work := Work.errand fun f => f.add (.worked label)
    match ← modifyGet fun s =>
      let (fate, stand) := s.stand.request desk when work
      (fate, { s with stand := stand }) with
    | .panicked payload => pure (.panicked payload)
    | _ => pure .nothing

end State

open State in
def Step.perform : Step α → Effect α (Result α)
  | newDraft target action script check => do
    let calls ← modifyGet newCounter
    let polls ← modifyGet newCounter
    store target (.unassigned (.ofAction action (script.operation calls) (check.check polls)))
  | nameSession source target session => do
    match ← object source with
    | some (.unassigned d) => store target (.unscheduled (d.forSession session))
    | _ => pure .nothing
  | newScheduler target mode => do
    modify fun s => { s with
      stand := { s.stand with desks := s.stand.desks ++ [mode.desk] }
      schedulers := (target, s.stand.desks.length) :: s.schedulers }
    pure .nothing
  | chooseScheduler source target scheduler => do
    match ← object source, (← get).scheduler? scheduler with
    | some (.unscheduled d), some number => store target (.scheduled (d.onScheduler number))
    | _, _ => pure .nothing
  | chooseCurrent source => do
    match ← object source with
    | some (.unscheduled d) =>
      match d.onCurrent none with
      | .error e => pure (.missing e)
      | .ok _ => pure .nothing
    | _ => pure .nothing
  | currentSchedulers => pure (.allMissing [.noScheduler, .noScheduler])
  | setNotifier source target notifier => do
    let counter ← modifyGet newCounter
    derive source target fun d => d.setNotifier (notifier.notifier counter)
  | removeNotifier source target => derive source target fun d => d.removeNotifier
  | setClassifier source target classifier => do
    let counter ← modifyGet newCounter
    derive source target fun d => d.setClassifier (classifier.classifier counter)
  | setPredicate source target classifier => do
    let counter ← modifyGet newCounter
    derive source target fun d => d.setPredicate (classifier.classifier counter).predicate
  | setBackoff source target table =>
    match table with
    | .error e => pure (.noTable e)
    | .ok table => derive source target fun d => d.setBackoff table
  | freeze source target => do
    match ← object source with
    | some (.scheduled d) => store target (.config d.toConfig)
    | _ => pure .nothing
  | copy source target => do
    match ← object source with
    | none => pure .nothing
    | some (.handle _) => pure .nothing
    | some (.share run) =>
      modify fun s => { s with
        stand := { s.stand with roster := s.stand.roster.addObserver run } }
      store target (.share run)
    | some object => store target object.copy
  | shape source => do
    match (← object source).bind Object.shape? with
    | some s => pure (.shape s)
    | none => pure .nothing
  | describe source => do
    match ← object source with
    | some (.unassigned d) => pure (.action d.action)
    | some (.unscheduled d) => pure (.action d.action)
    | some (.scheduled d) => pure (.action d.action)
    | some (.config c) => pure (.settings c.action c.session c.backoff.waits)
    | _ => pure .nothing
  | launch source target span => do
    match ← object source with
    | some (.scheduled d) => State.launch (Bench.launchDraft d) target span
    | some (.config c) => State.launch (Bench.launch c) target span
    | _ => pure .nothing
  | share source target => do
    match ← object source with
    | some (.handle run) =>
      modify fun s => { s with
        stand := { s.stand with roster := s.stand.roster.addObserver run } }
      modify fun s => s.erase source
      store target (.share run)
    | _ => pure .nothing
  | drop source => do
    modify fun s => s.erase source
    pure .nothing
  | poll source => do
    match ← object source with
    | some (.handle run) => ask source run
    | some (.share run) => ask source run
    | _ => pure .absent
  | tick => return .tick (← State.tick)
  | tickAll => return .ticks (← State.tickAll)
  | wake => return .count (← onClock Clock.wake)
  | advance delay => return .count (← onClock fun c => c.advance delay.nanos)
  | next => do
    match ← State.next with
    | none => pure .noTimers
    | some n => pure (.count n)
  | finish => do
    let jumps ← State.finish maxJumps
    return .finished jumps (.of (← get).stand.clock)
  | shutdown => do
    let dropped ← modifyGet fun s =>
      let (n, stand) := s.stand.shutdown
      (n, { s with stand := stand })
    pure (.count dropped)
  | state => return .snapshot (.of (← get).stand.clock)
  | recorded scheduler => do
    let s ← get
    match (s.scheduler? scheduler).bind fun desk => s.stand.desks[desk]? with
    | some desk => pure (.record desk.record)
    | none => pure .nothing
  | submit scheduler label => hand scheduler label .now
  | schedule scheduler label delay => hand scheduler label (.after delay)
  | flip switch => do
    modify fun s => { s with stand := s.stand.cancel switch }
    pure .nothing
  | readSwitch switch => do
    let cancelled := (← get).stand.fixture.isCancelled switch
    pure (.switch [cancelled, cancelled, cancelled] (Fixture.switchShape cancelled))

/-- What is seen of a step. -/
structure Answer (α : Type) where
  result : Result α
  events : List Event
  log : List Log.Entry

/-- Performs a step and collects what it caused. -/
def State.step (s : State α) (step : Step α) : Answer α × State α :=
  let told := step.perform.run [] s
  let (events, stand) := told.state.stand.drain
  (⟨told.value, events, told.notes.filterMap fun line => line.note.entry?⟩,
    { told.state with stand := stand })

def State.play (s : State α) : List (Step α) → List (Answer α)
  | [] => []
  | step :: rest =>
    let (answer, s) := s.step step
    answer :: s.play rest

def play (steps : List (Step α)) : List (Answer α) := State.init.play steps

end Reattempt.Rehearsal
