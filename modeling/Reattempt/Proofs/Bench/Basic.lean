import Mathlib.Data.List.Perm.Basic
import Reattempt.Bench
import Reattempt.Proofs.Run.Drive

/-! # Any schedule on a bench

What may be done with a bench is any list of actions. Its schedulers are any that treat work as
something that is owned: they put a unit of work on the clock once, or not at all, and leave other
work where it is. -/

namespace Reattempt

variable {σ φ α : Type}

def Work.ticket? : Work σ φ → Option (Ticket φ)
  | attempt t => some t
  | errand _ => none

def Clock.tickets (c : Clock (Work σ φ)) : List (Ticket φ) := c.waiting.filterMap Work.ticket?

/-- A scheduler that puts work on a clock if it says that it keeps it, once, and moves no other work
but on that clock. -/
def Scheduler.Linear {S : Type} (clockOf : S → Clock (Work σ φ)) (s : Scheduler (Work σ φ) S) :
    Prop :=
  ∀ request w before,
    let (fate, after) := s.take request w before
    (clockOf after).tickets.Perm
      (if fate = .kept then (clockOf before).tickets ++ w.ticket?.toList
        else (clockOf before).tickets)

namespace Bench

inductive Action (σ φ α : Type) where
  /-- A configuration is executed in some spans. -/
  | launch (config : Config σ φ α) (spans : List Log.Span)
  | tick (suspend : Clock (Work σ φ) → Duration → Work σ φ → Clock (Work σ φ))
  /-- Time passes, or work that waits is moved on the clock. -/
  | arrange (move : Clock (Work σ φ) → Clock (Work σ φ))
  | shutdown
  /-- One more observer holds a run's handle. -/
  | share (run : Nat)
  /-- One observer of a run lets go. -/
  | release (run : Nat)
  /-- Anything else that changes what callers' code shares. -/
  | outside (effect : σ → σ)

/-- An action that neither loses nor multiplies tickets without saying so. -/
def Action.Linear : Action σ φ α → Prop
  | tick suspend => ∀ clock pause w,
    (suspend clock pause w).tickets.Perm (clock.tickets ++ w.ticket?.toList)
  | arrange move => ∀ clock, (move clock).tickets.Perm clock.tickets
  | _ => True

def Action.config? : Action σ φ α → Option (Config σ φ α)
  | launch config _ => some config
  | _ => none

/-- What is said in an action, and the bench after it. -/
def perform (b : Bench σ φ α) : Action σ φ α → List (Line α) × Bench σ φ α
  | .launch config spans =>
    let told := (Bench.launch config).run spans b
    (told.notes, told.state)
  | .tick suspend =>
    let told := (Bench.tick suspend).run [] b
    (told.notes, told.state)
  | .arrange move => ([], { b with clock := move b.clock })
  | .shutdown => ([], b.shutdown.2)
  | .share run => ([], { b with roster := b.roster.addObserver run })
  | .release run => ([], { b with roster := b.roster.removeObserver run })
  | .outside effect => ([], { b with roster := { b.roster with env := effect b.roster.env } })

def play (b : Bench σ φ α) : List (Action σ φ α) → List (Line α) × Bench σ φ α
  | [] => ([], b)
  | a :: as =>
    let (lines, after) := b.perform a
    let (rest, last) := after.play as
    (lines ++ rest, last)

theorem play_cons (b : Bench σ φ α) (a : Action σ φ α) (as : List (Action σ φ α)) :
    b.play (a :: as) = ((b.perform a).1 ++ ((b.perform a).2.play as).1,
      ((b.perform a).2.play as).2) := rfl

theorem play_singleton (b : Bench σ φ α) (a : Action σ φ α) : b.play [a] = b.perform a := by
  rw [play_cons, play, List.append_nil]

theorem play_append (b : Bench σ φ α) (as bs : List (Action σ φ α)) :
    b.play (as ++ bs) = ((b.play as).1 ++ ((b.play as).2.play bs).1,
      ((b.play as).2.play bs).2) := by
  induction as generalizing b with
  | nil => rfl
  | cons a as ih => simp only [List.cons_append, play_cons, ih, List.append_assoc]

/-! ## What the parts of an action do -/

variable (b : Bench σ φ α)

/-- A desk records a request and passes it on. -/
theorem request_eq {desk : Nat} {d : Desk σ φ} (hd : b.desks[desk]? = some d) (when : Request)
    (w : Work σ φ) : b.request desk when w =
      let taken := d.scheduler.take when w (b.clock, b.roster.env)
      let after : Bench σ φ α := ⟨{ b.roster with env := taken.2.2 }, taken.2.1,
        b.desks.set desk { d with record := d.record.add when }⟩
      (taken.1, if taken.1 = .kept then after else after.drop w) := by
  have hrecord : d.scheduler.recording.take when w (d.record, b.clock, b.roster.env) =
      ((d.scheduler.take when w (b.clock, b.roster.env)).1, d.record.add when,
        (d.scheduler.take when w (b.clock, b.roster.env)).2) := rfl
  simp only [request, hd, hrecord]
  cases (d.scheduler.take when w (b.clock, b.roster.env)).1 <;> rfl

/-- The handle of a run is lost where its submission panics. -/
def afterSubmit (run : Nat) : Fate → Bench σ φ α
  | .panicked _ => { b with roster := b.roster.removeObserver run }
  | _ => b

theorem perform_launch (config : Config σ φ α) (spans : List Log.Span) :
    b.perform (.launch config spans) =
      let r := b.roster.runs.length
      let (fate, after) :=
        { b with roster := b.roster.addRun ⟨config, spans, .waiting, 1⟩ }.request
          config.scheduler .now (.attempt ⟨r, 1, .queued⟩)
      ([⟨r, .act .submitted⟩], after.afterSubmit r fate) := by
  simp only [perform, launch, onRoster, Noted.run_bind, Noted.run_focus, Noted.run_modifyGet,
    Roster.run_launch]
  generalize Bench.request _ _ _ _ = requested
  rcases requested with ⟨_ | _ | payload, after⟩ <;> rfl

/-- What is left to do when a ticket was driven. -/
def afterDrive (suspend : Clock (Work σ φ) → Duration → Work σ φ → Clock (Work σ φ)) (run : Nat) :
    Driven φ → Bench σ φ α
  | .suspended t pause => { b with clock := suspend b.clock pause (.attempt t) }
  | .finished => b
  | .handedOver delay t =>
    (b.request ((b.roster.runs[run]?.map fun r => r.config.scheduler).getD 0) (.after delay)
      (.attempt t)).2

theorem perform_tick (suspend : Clock (Work σ φ) → Duration → Work σ φ → Clock (Work σ φ)) :
    b.perform (.tick suspend) = match b.clock.takeReady? with
      | none => ([], b)
      | some (.errand effect, clock) =>
        ([], { b with clock := clock, roster := { b.roster with env := effect b.roster.env } })
      | some (.attempt t, clock) =>
        let told := (Roster.drive t).run [] b.roster
        (told.notes, ({ b with clock := clock, roster := told.state } : Bench σ φ α).afterDrive
          suspend t.run told.value) := by
  simp only [perform, tick, onRoster, Noted.run_bind, Noted.run_get]
  rcases b.clock.takeReady? with _ | ⟨⟨t⟩ | ⟨effect⟩, clock⟩
  · rfl
  · simp only [Noted.run_bind, Noted.run_modify, Noted.run_focus]
    rcases (Roster.drive t).run [] b.roster with ⟨⟨t', pause⟩ | _ | ⟨delay, t'⟩, lines, c⟩
    · simp [afterDrive]
    · simp [afterDrive]
    · simp only [Noted.run_bind, Noted.run_get, Noted.run_modifyGet, afterDrive]
      generalize Bench.request _ _ _ _ = requested
      rcases requested with ⟨_ | _ | payload, after⟩ <;> simp
  · rfl

end Bench

end Reattempt
