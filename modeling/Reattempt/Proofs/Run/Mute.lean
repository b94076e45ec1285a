import Reattempt.Proofs.Noted.Mirrors
import Reattempt.Proofs.Run.Drive

/-! # Runs without their notifiers

A run whose notifier changes nothing that its other code can see is mirrored by the same run with no
notifier at all. -/

namespace Reattempt

variable {σ ρ φ α β : Type}

/-- States that look the same to code that sees no more of them than a view. -/
def Agree (view : σ → ρ) (s t : σ) : Prop := view s = view t

/-- All code of a run but the notifier sees no more than a view of what is shared, and the notifier
changes nothing of that view. -/
structure Config.Shields (c : Config σ φ α) (view : σ → ρ) : Prop where
  check : Couples (Agree view) c.check.poll c.check.poll
  call : Couples (Agree view) c.operation.call c.operation.call
  poll : ∀ operation, Couples (Agree view) (c.operation.poll operation) (c.operation.poll operation)
  classifier : ∀ cause, Couples (Agree view) (c.classifier.judge cause) (c.classifier.judge cause)
  notifier : ∀ notifier cause s, c.notifier = some notifier →
    Agree view ((notifier.consumer cause).run s).2 s

/-- A note of the notifier: that it was told of a failure, or a warning. -/
def Note.isNotice : Note α → Bool
  | act (.notified _ _) => true
  | act _ => false
  | log entry => entry.event.level = .warn

def Line.isNotice (line : Line α) : Bool := line.note.isNotice

namespace Config

/-- The same configuration with no notifier. -/
def mute (c : Config σ φ α) : Config σ φ α := { c with notifier := none }

/-! ## An attempt -/

/-- What is seen of notes by whom the notifier is hidden from. -/
abbrev unnoticed : Note α → Option (Note α) := Option.guard fun note => !note.isNotice

variable {c : Config σ φ α} {view : σ → ρ} (h : c.Shields view)

include h

theorem isCancelled_mirrors : c.isCancelled.Mirrors (Agree view) unnoticed c.mute.isCancelled := by
  refine .bind (.ask h.check fun _ => rfl) fun reply => ?_
  cases reply with
  | returned gone => exact .pure gone
  | panicked payload => exact .bind (.log fun _ => rfl) fun _ => .pure true

theorem report_mirrors (cause : Failure) :
    (c.report cause).Mirrors (Agree view) unnoticed (c.mute.report cause) := by
  refine .hidden fun path s t hst => ?_
  rw [run_report]
  cases hn : c.notifier with
  | none => exact ⟨rfl, hst⟩
  | some notifier =>
      have hs := h.notifier notifier cause s hn
      rcases hx : (notifier.consumer cause).run s with ⟨_ | payload, u⟩ <;>
        simp only [hx] at hs ⊢
      · exact ⟨rfl, hs.trans hst⟩
      · exact ⟨rfl, hs.trans hst⟩

theorem judge_mirrors (cause : Failure) :
    (c.judge cause).Mirrors (Agree view) unnoticed (c.mute.judge cause) := by
  refine .bind (.ask (h.classifier cause) fun _ => rfl) fun reply => ?_
  cases reply with
  | returned verdict => exact .pure verdict
  | panicked payload => exact .bind (.log fun _ => rfl) fun _ => .pure false

theorem verdict_mirrors (attempt : UInt32) (f : Failure) :
    (c.verdict attempt f).Mirrors (Agree view) unnoticed (c.mute.verdict attempt f) := by
  refine .bind (judge_mirrors h f.bare) fun verdict => ?_
  cases verdict with
  | true => exact .bind (.log fun _ => rfl) fun _ => .bind (.log fun _ => rfl) fun _ => .pure _
  | false => exact .bind (.log fun _ => rfl) fun _ => .pure _

theorem fail_mirrors (attempt : UInt32) (f : Failure) :
    (c.fail attempt f).Mirrors (Agree view) unnoticed (c.mute.fail attempt f) :=
  .bind (report_mirrors h f.bare) fun _ => verdict_mirrors h attempt f

theorem resume_mirrors (attempt : UInt32) (operation : φ) :
    (c.resume attempt operation).Mirrors (Agree view) unnoticed
      (c.mute.resume attempt operation) := by
  refine .bind (.ask (h.poll operation) fun progress => ?_) fun progress => ?_
  · cases progress <;> rfl
  · rcases progress with ⟨next, pause⟩ | ((f | value) | payload)
    · exact .pure _
    · exact fail_mirrors h attempt f
    · exact .bind (.log fun _ => rfl) fun _ => .pure _
    · exact fail_mirrors h attempt _

theorem start_mirrors (attempt : UInt32) :
    (c.start attempt).Mirrors (Agree view) unnoticed (c.mute.start attempt) := by
  refine .bind (isCancelled_mirrors h) fun gone => ?_
  cases gone with
  | true => exact .bind (.log fun _ => rfl) fun _ => .pure _
  | false =>
      refine .bind (.log fun _ => rfl) fun _ => .bind (.ask h.call fun _ => rfl) fun reply => ?_
      cases reply with
      | returned operation => exact resume_mirrors h attempt operation
      | panicked payload => exact fail_mirrors h attempt _

theorem proceed_mirrors (attempt : UInt32) (stage : Stage φ) :
    (c.proceed attempt stage).Mirrors (Agree view) unnoticed (c.mute.proceed attempt stage) := by
  cases stage with
  | queued => exact start_mirrors h attempt
  | underway operation => exact resume_mirrors h attempt operation

end Config

/-! ## A driven ticket -/

def Run.mute (run : Run σ φ α) : Run σ φ α := { run with config := run.config.mute }

namespace Roster

/-- The second roster has the runs of the first with no notifiers. -/
structure Mutes (view : σ → ρ) (c d : Roster σ φ α) : Prop where
  env : Agree view c.env d.env
  runs : d.runs = c.runs.map Run.mute

/-- What is seen of lines by whom the notifiers are hidden from. -/
abbrev unnoticed : Line α → Option (Line α) := Option.guard fun line => !line.isNotice

variable {view : σ → ρ} {c d : Roster σ φ α}

theorem Mutes.getElem? (h : c.Mutes view d) (r : Nat) : d.runs[r]? = c.runs[r]?.map Run.mute := by
  rw [h.runs, List.getElem?_map]

theorem Mutes.modifyRun (h : c.Mutes view d) (r : Nat) {f : Run σ φ α → Run σ φ α}
    (hf : ∀ run, (f run).mute = f run.mute) : (c.modifyRun r f).Mutes view (d.modifyRun r f) where
  env := h.env
  runs := by
    rw [Roster.modifyRun, h.runs]
    exact (map_modify_comm hf c.runs r).symm

theorem Mutes.observers (h : c.Mutes view d) (r : Nat) : c.observers r = d.observers r := by
  rw [Roster.observers, Roster.observers, h.getElem?]
  cases c.runs[r]? <;> rfl

theorem filterMap_unnoticed (r : Nat) (notes : List (Note α)) :
    (notes.map (Line.mk r)).filterMap unnoticed =
      (notes.filterMap Config.unnoticed).map (Line.mk r) := by
  rw [List.filterMap_eq_filter, List.filterMap_eq_filter, List.filter_map]
  rfl

theorem settle_mirrors (h : c.Mutes view d) (r : Nat) (outcome : Outcome α)
    (path : List Log.Span) : ((settle r outcome).run path c).Mirrors (Mutes view) unnoticed
      ((settle r outcome).run path d) := by
  rw [run_settle, run_settle]
  refine ⟨rfl, ?_, h.modifyRun r fun _ => rfl⟩
  rw [filterMap_unnoticed, unheard, unheard, h.observers]
  split <;> rfl

theorem drive_mirrors (h : c.Mutes view d) (hc : ∀ run ∈ c.runs, run.config.Shields view)
    (t : Ticket φ) (spans : List Log.Span) :
    ((drive t).run spans c).Mirrors (Mutes view) unnoticed ((drive t).run spans d) := by
  cases hr : c.runs[t.run]? with
  | none =>
      have hr' : d.runs[t.run]? = none := by rw [h.getElem?, hr, Option.map_none]
      rw [run_drive_none hr, run_drive_none hr']
      exact ⟨rfl, rfl, h⟩
  | some run =>
      have hr' : d.runs[t.run]? = some run.mute := by rw [h.getElem?, hr, Option.map_some]
      have hm : ((run.config.proceed t.attempt t.stage).run (run.path t.attempt) c.env).Mirrors
          (Agree view) Config.unnoticed
          ((run.mute.config.proceed t.attempt t.stage).run (run.mute.path t.attempt) d.env) :=
        Config.proceed_mirrors (hc run (List.mem_of_getElem? hr)) t.attempt t.stage _ _ _ h.env
      rw [run_drive hr, run_drive hr']
      dsimp only
      generalize (run.config.proceed t.attempt t.stage).run _ _ = told at *
      generalize (run.mute.config.proceed t.attempt t.stage).run _ _ = told' at *
      obtain ⟨step, notes, s⟩ := told
      obtain ⟨step', notes', s'⟩ := told'
      obtain ⟨rfl, hnotes, hs⟩ := hm
      have hlines : (notes.map (Line.mk t.run)).filterMap unnoticed =
          notes'.map (Line.mk t.run) := by rw [filterMap_unnoticed, hnotes]
      have hafter : Mutes view (⟨s, c.runs⟩ : Roster σ φ α) ⟨s', d.runs⟩ := ⟨hs, h.runs⟩
      cases step with
      | suspended operation pause => exact ⟨rfl, hlines, hafter⟩
      | settled outcome =>
          have hd := settle_mirrors hafter t.run outcome (run.path t.attempt)
          exact ⟨rfl, by rw [List.filterMap_append, hlines, hd.notes]; rfl, hd.state⟩
      | retry delay => exact ⟨rfl, by rw [List.filterMap_append, hlines]; rfl, hafter⟩

end Roster

end Reattempt
