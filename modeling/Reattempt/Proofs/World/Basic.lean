import Reattempt.Proofs.Run.Drive
import Reattempt.Scheduler.Basic

/-! # Any schedule at all

A world is a roster together with the tickets that schedulers hold. Nothing is assumed of the
schedulers: a play is any list of moves, each of which starts a run, polls some held ticket, loses
one, or changes what callers' code shares. A request made in a poll may keep the ticket, lose it or
panic. Work that a scheduler runs while it is handed over is the same as work polled right after,
since nothing is done after the handing over. -/

namespace Reattempt

/-- All runs, and the work of theirs that schedulers hold. -/
structure World (σ φ α : Type) where
  roster : Roster σ φ α
  held : List (Ticket φ)

/-- What may happen next. Work is known by its place among all that is held. -/
inductive Move (σ φ α : Type) where
  /-- A configuration is executed in some spans, and its scheduler answers the submission. -/
  | launch (config : Config σ φ α) (spans : List Log.Span) (fate : Fate)
  /-- Work is polled, and the scheduler answers the request of a next attempt, if one is made. -/
  | poll (place : Nat) (fate : Fate)
  | discard (place : Nat)
  /-- One more observer holds a run's handle. -/
  | share (run : Nat)
  /-- One observer of a run lets go. -/
  | release (run : Nat)
  /-- Anything else that changes what callers' code shares. -/
  | outside (effect : σ → σ)

/-- What is seen of a move: a note of a run, or a ticket that was dropped. -/
inductive Sight (φ α : Type) where
  | line (line : Line α)
  | dropped (ticket : Ticket φ)

theorem getElem?_concat_of_ne {β : Type} {xs : List β} {x : β} {i : Nat} (h : i ≠ xs.length) :
    (xs ++ [x])[i]? = xs[i]? := by
  rcases Nat.lt_or_gt_of_ne h with hlt | hgt
  · exact List.getElem?_append_left hlt
  · rw [List.getElem?_eq_none (by simp; omega), List.getElem?_eq_none (by omega)]

namespace World

variable {σ φ α : Type}

def init (env : σ) : World σ φ α := ⟨.init env, []⟩

/-- A ticket is dropped, which interrupts its run. -/
def lose (w : World σ φ α) (t : Ticket φ) : List (Sight φ α) × World σ φ α :=
  ([.dropped t], { w with roster := w.roster.drop t })

/-- A ticket is handed to a scheduler, which keeps it or not. -/
def receive (w : World σ φ α) (t : Ticket φ) : Fate → List (Sight φ α) × World σ φ α
  | .kept => ([], { w with held := w.held ++ [t] })
  | _ => w.lose t

/-- With a panic out of the submission the handle of a run is lost. -/
def afterSubmit (w : World σ φ α) (run : Nat) : Fate → World σ φ α
  | .panicked _ => { w with roster := w.roster.removeObserver run }
  | _ => w

/-- What was driven goes on to wait, is done, or hands over to the next attempt. -/
def afterPoll (w : World σ φ α) (fate : Fate) : Driven φ → List (Sight φ α) × World σ φ α
  | .suspended t _ => w.receive t .kept
  | .finished => ([], w)
  | .handedOver _ t => w.receive t fate

/-- What is seen of a move, and the world after it. -/
def perform (w : World σ φ α) : Move σ φ α → List (Sight φ α) × World σ φ α
  | .launch config spans fate =>
    let told := (Roster.launch config).run spans w.roster
    let (seen, after) := { w with roster := told.state }.receive told.value fate
    (told.notes.map .line ++ seen, after.afterSubmit told.value.run fate)
  | .poll place fate =>
    match w.held[place]? with
    | none => ([], w)
    | some t =>
      let told := (Roster.drive t).run [] w.roster
      let (seen, after) :=
        (⟨told.state, w.held.eraseIdx place⟩ : World σ φ α).afterPoll fate told.value
      (told.notes.map .line ++ seen, after)
  | .discard place =>
    match w.held[place]? with
    | none => ([], w)
    | some t => { w with held := w.held.eraseIdx place }.lose t
  | .share run => ([], { w with roster := w.roster.addObserver run })
  | .release run => ([], { w with roster := w.roster.removeObserver run })
  | .outside effect => ([], { w with roster := { w.roster with env := effect w.roster.env } })

def play (w : World σ φ α) : List (Move σ φ α) → List (Sight φ α) × World σ φ α
  | [] => ([], w)
  | m :: ms =>
    let (seen, after) := w.perform m
    let (rest, last) := after.play ms
    (seen ++ rest, last)

@[simp] theorem play_nil (w : World σ φ α) : w.play [] = ([], w) := rfl

theorem play_cons (w : World σ φ α) (m : Move σ φ α) (ms : List (Move σ φ α)) :
    w.play (m :: ms) = ((w.perform m).1 ++ ((w.perform m).2.play ms).1,
      ((w.perform m).2.play ms).2) := rfl

theorem play_singleton (w : World σ φ α) (m : Move σ φ α) : w.play [m] = w.perform m := by
  rw [play_cons, play_nil, List.append_nil]

theorem play_append (w : World σ φ α) (ms ns : List (Move σ φ α)) :
    w.play (ms ++ ns) = ((w.play ms).1 ++ ((w.play ms).2.play ns).1,
      ((w.play ms).2.play ns).2) := by
  induction ms generalizing w with
  | nil => rfl
  | cons m ms ih => simp only [List.cons_append, play_cons, ih, List.append_assoc]

theorem env_afterPoll (w : World σ φ α) (fate : Fate) (d : Driven φ) :
    (w.afterPoll fate d).2.roster.env = w.roster.env := by
  cases d with
  | handedOver delay t => cases fate <;> rfl
  | _ => rfl

/-- The notes of a run, in the order in which they are seen. -/
def notesOf (r : Nat) (seen : List (Sight φ α)) : List (Note α) :=
  seen.filterMap fun
    | .line line => if line.run = r then some line.note else none
    | .dropped _ => none

/-- What a run can be seen to do. -/
def actsOf (r : Nat) (seen : List (Sight φ α)) : List (Act α) :=
  (notesOf r seen).filterMap Note.act?

/-- The spans of the attempts that a run is seen to start. -/
def startsOf (r : Nat) (seen : List (Sight φ α)) : List (List Log.Span) :=
  (notesOf r seen).filterMap Note.start?

def dropsOf (r : Nat) (seen : List (Sight φ α)) : List (Ticket φ) :=
  seen.filterMap fun
    | .line _ => none
    | .dropped t => if t.run = r then some t else none

def heldBy (w : World σ φ α) (r : Nat) : List (Ticket φ) :=
  w.held.filter fun t => t.run = r

theorem notesOf_append (r : Nat) (seen rest : List (Sight φ α)) :
    notesOf r (seen ++ rest) = notesOf r seen ++ notesOf r rest :=
  List.filterMap_append

@[simp] theorem actsOf_append (r : Nat) (seen rest : List (Sight φ α)) :
    actsOf r (seen ++ rest) = actsOf r seen ++ actsOf r rest := by
  rw [actsOf, notesOf_append, List.filterMap_append]
  rfl

@[simp] theorem startsOf_append (r : Nat) (seen rest : List (Sight φ α)) :
    startsOf r (seen ++ rest) = startsOf r seen ++ startsOf r rest := by
  rw [startsOf, notesOf_append, List.filterMap_append]
  rfl

@[simp] theorem dropsOf_append (r : Nat) (seen rest : List (Sight φ α)) :
    dropsOf r (seen ++ rest) = dropsOf r seen ++ dropsOf r rest :=
  List.filterMap_append

@[simp] theorem actsOf_dropped (r : Nat) (t : Ticket φ) :
    actsOf r ([.dropped t] : List (Sight φ α)) = [] := rfl

@[simp] theorem startsOf_dropped (r : Nat) (t : Ticket φ) :
    startsOf r ([.dropped t] : List (Sight φ α)) = [] := rfl

theorem notesOf_lines (r : Nat) (lines : List (Line α)) :
    notesOf r (lines.map .line : List (Sight φ α)) = Roster.notesOf r lines := by
  rw [notesOf, List.filterMap_map]
  rfl

@[simp] theorem actsOf_lines (r : Nat) (lines : List (Line α)) :
    actsOf r (lines.map .line : List (Sight φ α)) =
      (Roster.notesOf r lines).filterMap Note.act? := by
  rw [actsOf, notesOf_lines]

@[simp] theorem startsOf_lines (r : Nat) (lines : List (Line α)) :
    startsOf r (lines.map .line : List (Sight φ α)) =
      (Roster.notesOf r lines).filterMap Note.start? := by
  rw [startsOf, notesOf_lines]

@[simp] theorem dropsOf_lines (r : Nat) (lines : List (Line α)) :
    dropsOf r (lines.map .line : List (Sight φ α)) = [] := by
  rw [dropsOf, List.filterMap_map, List.filterMap_eq_nil_iff]
  exact fun _ _ => rfl

end World

end Reattempt
