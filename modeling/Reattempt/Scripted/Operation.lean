import Reattempt.Scripted.Fixture

/-!
# Scripted operations and checks

An operation plays a list of steps, one for each call, and gives a fixed value from then on. A
check plays a list of answers, or reads a switch.
-/

namespace Reattempt.Scripted

/-- How a call of a scripted operation ends. -/
inductive Ending (α : Type) where
  | value (a : α)
  | failure (f : Failure)
  | panic (payload : Payload)

/-- What one call of a scripted operation does. -/
structure Cue (α : Type) where
  /-- The number of calls in a row that do this. -/
  times : Nat
  cancels : Option String
  callPanic : Option Payload
  /-- The number of polls that find the operation pending. -/
  pending : Nat
  sleep : Option Duration
  ending : Ending α

/-- The calls of a scripted operation. -/
structure Script (α : Type) where
  name : String
  /-- What the `n`-th call does, counted from one. -/
  cue : Nat → Cue α
  /-- A bound on how often the operation is called, polled and waited for until its runs end. -/
  length : Nat

/-- A scripted operation that was called and has not come to its end. -/
structure Playing (α : Type) where
  name : String
  call : Nat
  pending : Nat
  sleep : Option Duration
  ending : Ending α

variable {α : Type}

/-- The cue with number `n`, counted from zero. -/
def cueAt? : List (Cue α) → Nat → Option (Cue α)
  | [], _ => none
  | cue :: rest, n => if n < cue.times then some cue else cueAt? rest (n - cue.times)

/-- What every call past the end of a script does. -/
def Cue.final (afterwards : α) : Cue α := ⟨1, none, none, 0, none, .value afterwards⟩

/-- Polls an operation: it is pending for its polls, sleeps, and then comes to its end. -/
def Playing.poll (p : Playing α) : StateM Fixture (Progress (Playing α) α) :=
  match p.pending, p.sleep with
  | left + 1, _ => pure (.pending { p with pending := left } .zero)
  | 0, some time => pure (.pending { p with sleep := none } time)
  | 0, none => do
    Fixture.record (.settled p.name p.call)
    match p.ending with
    | .value a => pure (.done (.returned (.ok a)))
    | .failure f => pure (.done (.returned (.error f)))
    | .panic payload => pure (.done (.panicked payload))

namespace Script

/-- The script that follows a list of cues, and gives one value from then on. -/
def ofCues (name : String) (cues : List (Cue α)) (afterwards : α) : Script α where
  name := name
  cue n := (cueAt? cues (n - 1)).getD (.final afterwards)
  length := (cues.map fun cue => cue.times * (cue.pending + 4)).foldr (· + ·) 0

/-- Calls the operation: the call is recorded, then a switch is flipped, then it may panic. -/
def call (s : Script α) (counter : Nat) : StateM Fixture (Reply (Playing α)) := do
  let n ← Fixture.count counter
  Fixture.record (.called s.name n)
  let cue := s.cue n
  match cue.cancels with
  | some switch => modify fun f => f.cancel switch
  | none => pure ()
  match cue.callPanic with
  | some payload => pure (.panicked payload)
  | none => pure (.returned ⟨s.name, n, cue.pending, cue.sleep, cue.ending⟩)

/-- The operation that plays a script and counts its calls. -/
def operation (s : Script α) (counter : Nat) : Operation Fixture (Playing α) α where
  call := s.call counter
  poll := Playing.poll

end Script

/-- The answers of a scripted check. -/
structure CheckScript where
  /-- The name of the operation that the check belongs to. -/
  operation : String
  /-- The poll that panics, and what the panic carries. -/
  panicAt : Option (Nat × Payload)
  switch : Option String
  /-- The answers of a check that reads no switch. -/
  answers : List Bool
  afterwards : Bool

/-- The answer of the `n`-th poll, counted from one. -/
def CheckScript.answer (s : CheckScript) (f : Fixture) (n : Nat) : Reply Bool :=
  match s.panicAt.filter fun panic => panic.1 = n with
  | some (_, payload) => .panicked payload
  | none =>
    match s.switch with
    | some switch => .returned (f.isCancelled switch)
    | none => .returned (s.answers.getD (n - 1) s.afterwards)

/-- The check that plays a script and counts its polls. -/
def CheckScript.check (s : CheckScript) (counter : Nat) : Check Fixture where
  poll := do
    let n ← Fixture.count counter
    let reply := s.answer (← get) n
    Fixture.record (.checked s.operation n reply)
    pure reply

end Reattempt.Scripted
