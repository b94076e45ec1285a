import Mathlib.Data.List.Perm.Basic
import Reattempt.Proofs.World.Basic

/-! # The account of a run's ticket

Every run has one ticket, until it settles. Either a scheduler holds it, or it was used up when the
run settled, or it was dropped. No move of any scheduler can change that. -/

namespace Reattempt

variable {σ φ α : Type}

namespace World

/-- What a run does in a move. -/
def trail (w : World σ φ α) (r : Nat) : Move σ φ α → List (Moment σ α)
  | .launch .. =>
    if r = w.roster.runs.length then [⟨w.roster.env, .submitted, w.roster.env⟩] else []
  | .poll place _ =>
    match w.held[place]?, w.roster.runs[r]? with
    | some t, some run => if r = t.run then run.trail t w.roster.env else []
    | _, _ => []
  | _ => []

theorem trail_poll {w : World σ φ α} {place : Nat} {t : Ticket φ} {run : Run σ φ α}
    (ht : w.held[place]? = some t) (hrun : w.roster.runs[t.run]? = some run) (fate : Fate)
    (r : Nat) : w.trail r (.poll place fate) =
      if r = t.run then run.trail t w.roster.env else [] := by
  by_cases hr : r = t.run
  · simp [trail, ht, hr, hrun]
  · cases hw : w.roster.runs[r]? <;> simp [trail, ht, hr, hw]

def timeline (w : World σ φ α) (r : Nat) : List (Move σ φ α) → List (Moment σ α)
  | [] => []
  | m :: ms => w.trail r m ++ (w.perform m).2.timeline r ms

theorem timeline_append (w : World σ φ α) (r : Nat) (ms ns : List (Move σ φ α)) :
    w.timeline r (ms ++ ns) = w.timeline r ms ++ (w.play ms).2.timeline r ns := by
  induction ms generalizing w with
  | nil => rfl
  | cons m ms ih => simp only [List.cons_append, timeline, ih, play_cons, List.append_assoc]

end World

/-- The spans of the attempts that a run has started, which are numbered from one. -/
def Run.starts (run : Run σ φ α) (ms : List (Moment σ α)) : List (List Log.Span) :=
  (List.range ((ms.map Moment.act).countP Act.passes)).map fun i => run.path (.ofNat (i + 1))

/-- What a held ticket's attempt starts is the next attempt of its run. -/
theorem Run.starts_append_trail {r : Nat} {run : Run σ φ α} {ms : List (Moment σ α)}
    {p : Phase φ α} {t : Ticket φ} (path : run.config.Path .unstarted ms p)
    (ht : p.ticket? r = some t) (s : σ) : run.starts (ms ++ run.trail t s) = run.starts ms ++
      List.replicate (((run.trail t s).map Moment.act).countP Act.passes)
        (run.path t.attempt) := by
  cases p with
  | waiting n =>
      cases ht
      -- a waiting ticket has the number after those of the checks that passed before it
      have hn := path.passes_of_waiting
      have hle : ((run.trail ⟨r, .ofNat n, .queued⟩ s).map Moment.act).countP Act.passes ≤ 1 := by
        rw [run.passes_trail]
        exact run.config.passes_startTrail s
      simp only [Run.starts, List.map_append, List.countP_append]
      generalize ((run.trail ⟨r, .ofNat n, .queued⟩ s).map Moment.act).countP Act.passes = k at *
      obtain rfl | rfl : k = 0 ∨ k = 1 := by omega
      · simp
      · simp [List.range_succ, hn]
  | running n operation =>
      cases ht
      have hzero : ((run.trail ⟨r, .ofNat n, .underway operation⟩ s).map Moment.act).countP
          Act.passes = 0 := by
        rw [run.passes_trail]
        exact run.config.passes_resumeTrail operation s
      simp [Run.starts, List.countP_append, hzero]
  | _ => cases ht

/-- What can be said of a run, its moments, its held and its dropped tickets, and the attempts that
it was seen to start. -/
inductive Account (r : Nat) : Option (Run σ φ α) → List (Moment σ α) → List (Ticket φ) →
    List (Ticket φ) → List (List Log.Span) → Prop where
  /-- There is no such run yet. -/
  | absent : Account r none [] [] [] []
  /-- The run rests, and its ticket is held unless it has settled. -/
  | kept {run : Run σ φ α} {q ms} (path : run.config.Path .unstarted ms q) (rest : q.AtRest)
      (slot : run.slot = q.slot) :
      Account r (some run) ms (q.ticket? r).toList [] (run.starts ms)
  /-- The run rested when its ticket was dropped, and is interrupted. -/
  | dropped {run : Run σ φ α} {q ms t} (path : run.config.Path .unstarted ms q) (rest : q.AtRest)
      (ticket : q.ticket? r = some t) (slot : run.slot = .interrupted) :
      Account r (some run) ms [] [t] (run.starts ms)

namespace Account

variable {r : Nat} {o : Option (Run σ φ α)} {run : Run σ φ α} {ms : List (Moment σ α)}
  {held held' drops : List (Ticket φ)} {starts : List (List Log.Span)} {t : Ticket φ}

/-- At most one ticket is held, so their order says nothing. -/
theorem perm (h : Account r o ms held drops starts) (hp : held.Perm held') :
    Account r o ms held' drops starts := by
  suffices held' = held from this ▸ h
  have hle : held.length ≤ 1 := by
    cases h with
    | @kept _ q => cases q.ticket? r <;> simp
    | _ => simp
  match held, hle with
  | [], _ => exact hp.nil_eq.symm
  | [_], _ => exact hp.singleton_eq.symm

/-- The accounts do not mention who observes a run. -/
theorem observed (h : Account r o ms held drops starts) (f : Nat → Nat) :
    Account r (o.map fun run => { run with observers := f run.observers }) ms held drops
      starts := by
  cases h with
  | absent => exact .absent
  | @kept run q _ path rest slot =>
      have hk : Account r (some { run with observers := f run.observers }) ms
          (q.ticket? r).toList [] (run.starts ms) := .kept path rest slot
      exact hk
  | @dropped run q _ t path rest ticket slot =>
      have hd : Account r (some { run with observers := f run.observers }) ms [] [t]
          (run.starts ms) := .dropped path rest ticket slot
      exact hd

theorem of_none (h : Account r (none : Option (Run σ φ α)) ms held drops starts) :
    ms = [] ∧ held = [] ∧ drops = [] ∧ starts = [] := by
  cases h
  exact ⟨rfl, rfl, rfl, rfl⟩

theorem exists_path (h : Account r (some run) ms held drops starts) :
    ∃ q, run.config.Path .unstarted ms q ∧ q.AtRest := by
  cases h with
  | kept path rest _ => exact ⟨_, path, rest⟩
  | dropped path rest _ _ => exact ⟨_, path, rest⟩

/-- A run rests as its slot and its held tickets say, unless its ticket was dropped where it
rests. -/
theorem exists_rest (h : Account r (some run) ms held drops starts) :
    ∃ q, run.config.Path .unstarted ms q ∧ q.AtRest ∧
      (run.slot = q.slot ∧ held = (q.ticket? r).toList ∧ drops = [] ∨
        ∃ t, q.ticket? r = some t ∧ run.slot = .interrupted ∧ held = [] ∧ drops = [t]) := by
  cases h with
  | kept path rest slot => exact ⟨_, path, rest, .inl ⟨slot, rfl, rfl⟩⟩
  | @dropped _ _ _ t path rest ticket slot =>
      exact ⟨_, path, rest, .inr ⟨t, ticket, slot, rfl, rfl⟩⟩

theorem starts_eq (h : Account r (some run) ms held drops starts) : starts = run.starts ms := by
  cases h <;> rfl

theorem ne_nil (h : Account r (some run) ms held drops starts) : ms ≠ [] := by
  rintro rfl
  obtain ⟨q, path, rest⟩ := h.exists_path
  cases path
  exact rest

/-- A held ticket is the only one, and its run rests where the ticket says. -/
theorem of_mem (h : Account r o ms held drops starts) (ht : t ∈ held) :
    ∃ run q, o = some run ∧ run.config.Path .unstarted ms q ∧ q.AtRest ∧
      q.ticket? r = some t ∧ run.slot = .waiting ∧ held = [t] ∧ drops = [] := by
  cases h with
  | @kept run q _ path rest slot =>
      have hq : q.ticket? r = some t := by simpa [Option.mem_toList] using ht
      exact ⟨run, q, rfl, path, rest, hq, slot.trans (Phase.slot_of_ticket? hq), by simp [hq], rfl⟩
  | absent => simp at ht
  | dropped => simp at ht

end Account

namespace World

/-- All runs of a world are accounted for, with some tickets in nobody's hands yet. -/
structure Balanced (past : List (Sight φ α)) (tl : Nat → List (Moment σ α)) (w : World σ φ α)
    (hand : List (Ticket φ)) : Prop where
  account : ∀ r, Account r w.roster.runs[r]? (tl r) ((w.held ++ hand).filter fun t => t.run = r)
    (dropsOf r past) (startsOf r past)
  acts : ∀ r, actsOf r past = (tl r).map Moment.act

variable {past : List (Sight φ α)} {tl : Nat → List (Moment σ α)} {w : World σ φ α}
  {t : Ticket φ}

theorem balanced_init (env : σ) :
    Balanced [] (fun _ => []) (World.init env : World σ φ α) [] where
  account _ := .absent
  acts _ := rfl

namespace Balanced

/-- A ticket that nobody holds yet is the only one of its run. -/
theorem lose (h : Balanced past tl w [t]) :
    Balanced (past ++ (w.lose t).1) tl (w.lose t).2 [] where
  account r := by
    have ha := h.account r
    by_cases hr : t.run = r
    · obtain ⟨run, q, hrun, path, rest, hq, -, hheld, hdrops⟩ :=
        ha.of_mem (t := t) (by simp [hr])
      have hnone : w.held.filter (fun t => t.run = r) = [] := by
        simpa [hr] using hheld
      simp only [World.lose, dropsOf_append, hdrops, List.append_nil, hnone]
      simp only [Roster.drop, Roster.modifyRun, hr, List.getElem?_modify_eq, hrun]
      have hlost : Account r (some { run with slot := .interrupted }) (tl r) [] [t]
          (run.starts (tl r)) := .dropped path rest hq rfl
      rw [hrun] at ha
      simpa [dropsOf, hr, ha.starts_eq] using hlost
    · simpa [World.lose, dropsOf, Roster.drop, Roster.modifyRun, hr] using ha
  acts r := by simpa [World.lose] using h.acts r

theorem receive (h : Balanced past tl w [t]) (fate : Fate) :
    Balanced (past ++ (w.receive t fate).1) tl (w.receive t fate).2 [] := by
  cases fate with
  | kept =>
      exact ⟨by simpa [World.receive] using h.account, by simpa [World.receive] using h.acts⟩
  | _ => exact h.lose

theorem afterPoll {d : Driven φ} (h : Balanced past tl w d.ticket?.toList) (fate : Fate) :
    Balanced (past ++ (w.afterPoll fate d).1) tl (w.afterPoll fate d).2 [] := by
  cases d with
  | suspended t pause => exact h.receive .kept
  | finished => simpa [World.afterPoll, Driven.ticket?] using h
  | handedOver delay t => exact h.receive fate

theorem observed (h : Balanced past tl w []) (i : Nat) (f : Nat → Nat) :
    Balanced past tl { w with roster := w.roster.modifyRun i fun run =>
      { run with observers := f run.observers } } [] where
  account r := by
    simp only [Roster.modifyRun, List.getElem?_modify]
    split
    · exact (h.account r).observed f
    · simpa using h.account r
  acts := h.acts

theorem take {place : Nat} (h : Balanced past tl w []) (ht : w.held[place]? = some t) :
    Balanced past tl { w with held := w.held.eraseIdx place } [t] where
  account r := by
    obtain ⟨hlt, rfl⟩ := List.getElem?_eq_some_iff.mp ht
    refine (h.account r).perm (List.Perm.filter _ ?_)
    rw [List.append_nil]
    exact (List.getElem_cons_eraseIdx_perm hlt).symm.trans (List.perm_append_singleton _ _).symm
  acts := h.acts

/-- A held ticket is driven as the account of its run says. -/
theorem drives (h : Balanced past tl w [t]) : ∃ run p q,
    w.roster.runs[t.run]? = some run ∧ p.ticket? t.run = some t ∧
      w.roster.Drives t run p (run.trail t w.roster.env)
        ((Roster.drive t).run [] w.roster) q := by
  obtain ⟨run, p, hrun, -, -, hp, hs, -, -⟩ := (h.account t.run).of_mem (t := t) (by simp)
  obtain ⟨q, hq⟩ := Roster.drive_drives hrun hs hp []
  exact ⟨run, p, q, hrun, hp, hq⟩

theorem drive (h : Balanced past tl w [t]) {run : Run σ φ α}
    (hrun : w.roster.runs[t.run]? = some run) :
    Balanced (past ++ ((Roster.drive t).run [] w.roster).notes.map .line)
      (fun r => tl r ++ if r = t.run then run.trail t w.roster.env else [])
      ⟨((Roster.drive t).run [] w.roster).state, w.held⟩
      ((Roster.drive t).run [] w.roster).value.ticket?.toList := by
  obtain ⟨run', p, hrun', path, rest, hp, hs, hheld, hdrops⟩ :=
    (h.account t.run).of_mem (t := t) (by simp)
  cases hrun.symm.trans hrun'
  obtain ⟨q, hd⟩ := Roster.drive_drives hrun hs hp []
  generalize (Roster.drive t).run [] w.roster = told at *
  -- the driven ticket is in hand, so that no scheduler holds one of its run
  have hnone : w.held.filter (fun t' => t'.run = t.run) = [] := by simpa using hheld
  refine ⟨fun r => ?_, fun r => ?_⟩
  · by_cases hr : r = t.run
    · subst hr
      have hkept : Account t.run (some { run with slot := q.slot })
          (tl t.run ++ run.trail t w.roster.env) (q.ticket? t.run).toList []
          (run.starts (tl t.run ++ run.trail t w.roster.env)) :=
        .kept (path.append hd.path) hd.atRest rfl
      have hlt := (List.getElem?_eq_some_iff.mp hrun).1
      have hstarts : startsOf t.run past = run.starts (tl t.run) := by
        have ha := h.account t.run
        rw [hrun] at ha
        exact ha.starts_eq
      rw [Run.starts_append_trail path hp] at hkept
      simpa [hd.runs, hlt, hd.ticket, hdrops, hnone, Phase.filter_ticket?_self, hd.starts,
        hstarts] using hkept
    · have ha := h.account r
      simpa [hd.runs, hd.ticket, hr, Ne.symm hr, Phase.filter_ticket?_other q (Ne.symm hr),
        hd.others r hr] using ha
  · by_cases hr : r = t.run
    · subst hr
      simp [h.acts, hd.acts]
    · simp [h.acts, hd.others r hr, hr]

/-- A launched run has its first ticket in nobody's hands yet. -/
theorem launch (h : Balanced past tl w []) (config : Config σ φ α) (spans : List Log.Span) :
    Balanced (past ++ ((Roster.launch config).run spans w.roster).notes.map .line)
      (fun r => tl r ++ if r = w.roster.runs.length then
        [⟨w.roster.env, .submitted, w.roster.env⟩] else [])
      ⟨((Roster.launch config).run spans w.roster).state, w.held⟩
      [((Roster.launch config).run spans w.roster).value] := by
  rw [Roster.run_launch]
  refine ⟨fun r => ?_, fun r => ?_⟩
  · have ha := h.account r
    by_cases hr : r = w.roster.runs.length
    · subst hr
      rw [List.getElem?_eq_none (Nat.le_refl _)] at ha
      obtain ⟨hms, hheld, hdrops, hstarts⟩ := ha.of_none
      have hkept : Account w.roster.runs.length (some (⟨config, spans, .waiting, 1⟩ : Run σ φ α))
          [⟨w.roster.env, .submitted, w.roster.env⟩] [⟨w.roster.runs.length, 1, .queued⟩] [] [] :=
        .kept (.single (.submit _)) trivial rfl
      rw [List.append_nil] at hheld
      rw [dropsOf_append, dropsOf_lines, startsOf_append, startsOf_lines]
      simpa [Roster.addRun, hms, hdrops, hheld, hstarts, Roster.notesOf,
        List.filterMap_cons] using hkept
    · have hrun : (w.roster.runs ++ [⟨config, spans, .waiting, 1⟩])[r]? = w.roster.runs[r]? :=
        getElem?_concat_of_ne hr
      rw [dropsOf_append, dropsOf_lines, startsOf_append, startsOf_lines]
      simpa [Roster.addRun, hr, Ne.symm hr, hrun, Roster.notesOf] using ha
  · rw [actsOf_append, actsOf_lines, h.acts]
    by_cases hr : r = w.roster.runs.length
    · simp [Roster.notesOf, hr, Note.act?]
    · simp [Roster.notesOf, hr, Ne.symm hr]

theorem afterSubmit (h : Balanced past tl w []) (run : Nat) (fate : Fate) :
    Balanced past tl (w.afterSubmit run fate) [] := by
  cases fate with
  | panicked _ => exact h.observed run (· - 1)
  | _ => exact h

theorem perform (h : Balanced past tl w []) (m : Move σ φ α) :
    Balanced (past ++ (w.perform m).1) (fun r => tl r ++ w.trail r m) (w.perform m).2 [] := by
  cases m with
  | launch config spans fate =>
      have hl := ((h.launch config spans).receive fate).afterSubmit w.roster.runs.length fate
      simpa [World.perform, trail, Roster.run_launch] using hl
  | poll place fate =>
      cases ht : w.held[place]? with
      | none => simpa [World.perform, trail, ht] using h
      | some t =>
          obtain ⟨run, p, q, hrun, -⟩ := (h.take ht).drives
          have hd := ((h.take ht).drive hrun).afterPoll fate
          simpa [World.perform, trail_poll ht hrun, ht] using hd
  | discard place =>
      cases ht : w.held[place]? with
      | none => simpa [World.perform, trail, ht] using h
      | some t => simpa [World.perform, trail, ht] using (h.take ht).lose
  | share run =>
      simpa [World.perform, trail, Roster.addObserver] using h.observed run (· + 1)
  | release run =>
      simpa [World.perform, trail, Roster.removeObserver] using h.observed run (· - 1)
  | outside effect => simpa [World.perform, trail] using ⟨h.account, h.acts⟩

theorem play (h : Balanced past tl w []) (ms : List (Move σ φ α)) :
    Balanced (past ++ (w.play ms).1) (fun r => tl r ++ w.timeline r ms) (w.play ms).2 [] := by
  induction ms generalizing past tl w with
  | nil => simpa [timeline] using h
  | cons m ms ih => simpa [play_cons, timeline] using ih (h.perform m)

end Balanced

/-- Whatever schedulers do, all runs are accounted for. -/
theorem balanced (env : σ) (ms : List (Move σ φ α)) :
    Balanced ((World.init env).play ms).1 (fun r => (World.init env).timeline r ms)
      ((World.init env).play ms).2 [] := by
  simpa using (balanced_init env).play ms

theorem exists_path (env : σ) (ms : List (Move σ φ α)) {r : Nat} {run : Run σ φ α}
    (hr : ((World.init env).play ms).2.roster.runs[r]? = some run) :
    ∃ q, run.config.Path .unstarted ((World.init env).timeline r ms) q ∧ q.AtRest := by
  have ha := (balanced env ms).account r
  rw [hr] at ha
  exact ha.exists_path

theorem exists_rest (env : σ) (ms : List (Move σ φ α)) {r : Nat} {run : Run σ φ α}
    (hr : ((World.init env).play ms).2.roster.runs[r]? = some run) :
    let seen := ((World.init env).play ms).1
    let w := ((World.init env).play ms).2
    ∃ q, run.config.Path .unstarted ((World.init env).timeline r ms) q ∧ q.AtRest ∧
      (run.slot = q.slot ∧ w.heldBy r = (q.ticket? r).toList ∧ dropsOf r seen = [] ∨
        ∃ t, q.ticket? r = some t ∧ run.slot = .interrupted ∧ w.heldBy r = [] ∧
          dropsOf r seen = [t]) := by
  have ha := (balanced env ms).account r
  rw [hr, List.append_nil] at ha
  exact ha.exists_rest

theorem exists_path_of_ne_nil (env : σ) (ms : List (Move σ φ α)) {r : Nat}
    (h : (World.init env).timeline r ms ≠ []) : ∃ (c : Config σ φ α) (q : Phase φ α),
      c.Path .unstarted ((World.init env).timeline r ms) q ∧ q.AtRest := by
  have ha := (balanced env ms).account r
  cases hr : ((World.init env).play ms).2.roster.runs[r]? with
  | none =>
      rw [hr] at ha
      exact absurd ha.of_none.1 h
  | some run => exact ⟨run.config, exists_path env ms hr⟩

/-- What a run does from some state on is its timeline from there. -/
theorem acts_play (env : σ) (ms later : List (Move σ φ α)) (r : Nat) :
    actsOf r (((World.init env).play ms).2.play later).1 =
      (((World.init env).play ms).2.timeline r later).map Moment.act := by
  have hall := (balanced env (ms ++ later)).acts r
  rwa [play_append, actsOf_append, timeline_append, List.map_append, (balanced env ms).acts r,
    List.append_cancel_left_eq] at hall

theorem acts_perform (env : σ) (ms : List (Move σ φ α)) (m : Move σ φ α) (r : Nat) :
    actsOf r (((World.init env).play ms).2.perform m).1 =
      (((World.init env).play ms).2.trail r m).map Moment.act := by
  simpa [play_cons, timeline] using acts_play env ms [m] r

end World

end Reattempt
