import Reattempt.Proofs.Run.Ledger
import Reattempt.Proofs.World.Origins

/-! # The ledgers of all runs

Whatever schedulers do, the notes of every run are a ledger of its path. -/

namespace Reattempt

variable {σ φ α : Type}

/-- What is written of run `r`: nothing before it is started, and then a ledger of its path. -/
inductive Entered : Option (Config σ φ α × List Log.Span) → List (Moment σ α) →
    List (Note α) → Prop where
  | absent : Entered none [] []
  | present {c parent ms notes q} (h : c.Ledger parent .unstarted ms notes q) :
      Entered (some (c, parent)) ms notes

theorem Entered.of_none {ms : List (Moment σ α)} {notes : List (Note α)}
    (h : Entered (none : Option (Config σ φ α × List Log.Span)) ms notes) : notes = [] := by
  cases h
  rfl

namespace World

@[simp] theorem notesOf_dropped (r : Nat) (t : Ticket φ) :
    notesOf r ([.dropped t] : List (Sight φ α)) = [] := rfl

@[simp] theorem notesOf_receive (w : World σ φ α) (r : Nat) (t : Ticket φ) (fate : Fate) :
    notesOf r (w.receive t fate).1 = [] := by
  cases fate <;> rfl

@[simp] theorem notesOf_afterPoll (w : World σ φ α) (r : Nat) (fate : Fate) (d : Driven φ) :
    notesOf r (w.afterPoll fate d).1 = [] := by
  cases d with
  | suspended t pause => exact w.notesOf_receive r t .kept
  | finished => rfl
  | handedOver delay t => exact w.notesOf_receive r t fate

variable {past : List (Sight φ α)} {tl : Nat → List (Moment σ α)} {w : World σ φ α}

/-- What a move is to run `r`, of which the given moments are past. -/
inductive Concern (past : List (Moment σ α)) (w : World σ φ α) (r : Nat) : Move σ φ α → Prop where
  | quiet {m} (trail : w.trail r m = []) (notes : notesOf r (w.perform m).1 = [])
      (origin : r = w.roster.runs.length → m.origin? = none) : Concern past w r m
  | start {config spans fate} (new : r = w.roster.runs.length) (unheard : past = [])
      (trail : w.trail r (.launch config spans fate) =
        [⟨w.roster.env, .submitted, w.roster.env⟩])
      (notes : notesOf r (w.perform (.launch config spans fate)).1 = [.act .submitted]) :
      Concern past w r (.launch config spans fate)
  | drive {place fate t run p} (held : w.held[place]? = some t)
      (known : w.roster.runs[r]? = some run) (path : run.config.Path .unstarted past p)
      (ticket : p.ticket? r = some t)
      (trail : w.trail r (.poll place fate) = run.trail t w.roster.env)
      (notes : notesOf r (w.perform (.poll place fate)).1 =
        Roster.notesOf r ((Roster.drive t).run [] w.roster).notes) :
      Concern past w r (.poll place fate)

theorem Balanced.concern_launch (h : Balanced past tl w []) (config : Config σ φ α)
    (spans : List Log.Span) (fate : Fate) (r : Nat) :
    Concern (tl r) w r (.launch config spans fate) := by
  have hnotes : notesOf r (w.perform (.launch config spans fate)).1 =
      Roster.notesOf r ([.act .submitted].map (Line.mk w.roster.runs.length)) := by
    simp only [World.perform, notesOf_append, notesOf_receive, notesOf_lines,
      Roster.run_launch, List.append_nil]
    rfl
  by_cases hr : r = w.roster.runs.length
  · have ha := h.account r
    rw [hr, List.getElem?_eq_none (Nat.le_refl _), ← hr] at ha
    refine .start hr ha.of_none.1 ?_ ?_
    · rw [trail, if_pos hr]
    · rw [hnotes, hr, Roster.notesOf_self]
  · refine .quiet ?_ ?_ fun hr' => absurd hr' hr
    · rw [trail, if_neg hr]
    · rw [hnotes, Roster.notesOf_other (Ne.symm hr)]

theorem Balanced.concern_poll (h : Balanced past tl w []) {place : Nat} {t : Ticket φ}
    (ht : w.held[place]? = some t) (fate : Fate) (r : Nat) :
    Concern (tl r) w r (.poll place fate) := by
  have hnotes : notesOf r (w.perform (.poll place fate)).1 =
      Roster.notesOf r ((Roster.drive t).run [] w.roster).notes := by
    simp only [World.perform, ht, notesOf_append, notesOf_afterPoll, notesOf_lines,
      List.append_nil]
  obtain ⟨run, p, hrun, path, -, hp, -⟩ := ((h.take ht).account t.run).of_mem (t := t) (by simp)
  by_cases hr : r = t.run
  · subst hr
    refine .drive ht hrun path hp ?_ hnotes
    rw [trail_poll ht hrun, if_pos rfl]
  · obtain ⟨_, _, _, -, -, hd⟩ := (h.take ht).drives
    refine .quiet ?_ ?_ fun _ => rfl
    · rw [trail_poll ht hrun, if_neg hr]
    · rw [hnotes]
      exact hd.others r hr

theorem Balanced.concern (h : Balanced past tl w []) (m : Move σ φ α) (r : Nat) :
    Concern (tl r) w r m := by
  cases m with
  | launch config spans fate => exact h.concern_launch config spans fate r
  | poll place fate =>
      cases ht : w.held[place]? with
      | none => refine .quiet ?_ ?_ fun _ => rfl <;> simp [trail, World.perform, ht, notesOf]
      | some t => exact h.concern_poll ht fate r
  | discard place =>
      refine .quiet rfl ?_ fun _ => rfl
      cases ht : w.held[place]? with
      | none => simp [World.perform, ht, notesOf]
      | some t => simp [World.perform, ht, World.lose]
  | share run => exact .quiet rfl rfl fun _ => rfl
  | release run => exact .quiet rfl rfl fun _ => rfl
  | outside effect => exact .quiet rfl rfl fun _ => rfl

/-- Every move writes on in the ledger of a run. -/
theorem Balanced.entered_perform (h : Balanced past tl w [])
    (he : ∀ r, Entered w.origins[r]? (tl r) (notesOf r past)) (m : Move σ φ α) (r : Nat) :
    Entered (w.perform m).2.origins[r]? (tl r ++ w.trail r m)
      (notesOf r (past ++ (w.perform m).1)) := by
  have hr := he r
  have hlen : w.origins.length = w.roster.runs.length := List.length_map _
  rw [notesOf_append, h.origins_perform]
  cases h.concern m r with
  | quiet trail notes origin =>
      suffices (w.origins ++ m.origin?.toList)[r]? = w.origins[r]? by
        rwa [this, trail, notes, List.append_nil, List.append_nil]
      -- if the move starts a run, it is another one
      cases ho : m.origin? with
      | none => rw [Option.toList_none, List.append_nil]
      | some o =>
          refine getElem?_concat_of_ne fun hnew => ?_
          rw [origin (hnew.trans hlen)] at ho
          cases ho
  | @start config spans fate new unheard trail notes =>
      rw [List.getElem?_eq_none (by omega), unheard] at hr
      have hnew : (w.origins ++ [(config, spans)])[r]? = some (config, spans) := by
        rw [new, ← hlen, List.getElem?_concat_length]
      rw [Move.origin?, Option.toList_some, hnew, trail, notes, unheard, hr.of_none]
      exact .present (.single (.submit _) (.usual _))
  | @drive place fate t run p held hrun path ticket trail notes =>
      obtain ⟨q, hl⟩ := Roster.drive_ledger hrun ticket []
      have ho : w.origins[r]? = some (run.config, run.parent) := by
        rw [origins, List.getElem?_map, hrun]
        rfl
      rw [ho] at hr
      have hnone : (Move.poll place fate : Move σ φ α).origin?.toList = [] := rfl
      rw [hnone, List.append_nil, ho, trail, notes]
      cases hr with
      | present hpast =>
          obtain rfl := hpast.path.unique path
          exact .present (hpast.append hl)

theorem Balanced.entered_play (h : Balanced past tl w [])
    (he : ∀ r, Entered w.origins[r]? (tl r) (notesOf r past)) (ms : List (Move σ φ α)) (r : Nat) :
    Entered (w.play ms).2.origins[r]? (tl r ++ w.timeline r ms)
      (notesOf r (past ++ (w.play ms).1)) := by
  induction ms generalizing past tl w with
  | nil => simpa [timeline] using he r
  | cons m ms ih =>
      have hrest := ih (h.perform m) (h.entered_perform he m)
      simpa [play_cons, timeline] using hrest

/-- Whatever schedulers do, what is written of a run is a ledger of the path that it takes. -/
theorem exists_ledger (env : σ) (ms : List (Move σ φ α)) {r : Nat} {run : Run σ φ α}
    (hr : ((World.init env).play ms).2.roster.runs[r]? = some run) :
    ∃ q, run.config.Ledger run.parent .unstarted ((World.init env).timeline r ms)
      (notesOf r ((World.init env).play ms).1) q ∧ q.AtRest := by
  have he := (balanced_init env).entered_play (fun r => .absent) ms r
  rw [origins, List.getElem?_map, hr] at he
  obtain ⟨p, path, rest⟩ := exists_path env ms hr
  cases he with
  | present hl =>
      -- the ledger ends where the account of the run does, since its moments are the same
      obtain rfl := hl.path.unique path
      exact ⟨_, hl, rest⟩

end World

end Reattempt
