import Reattempt.Proofs.World.Sticky

/-! # One run out of many

What a world shows of one run is what a world shows in which there is no other. To the run, others
are nothing but changes of what callers' code shares. -/

namespace Reattempt

variable {σ φ α : Type}

/-- The ticket where its run is the only one. -/
def Ticket.alone (t : Ticket φ) : Ticket φ := { t with run := 0 }

def Driven.alone : Driven φ → Driven φ
  | suspended t pause => suspended t.alone pause
  | finished => finished
  | handedOver delay t => handedOver delay t.alone

def Line.alone (line : Line α) : Line α := { line with run := 0 }

namespace Roster

/-- The roster of run `r` alone. -/
def only (c : Roster σ φ α) (r : Nat) : Roster σ φ α := ⟨c.env, c.runs[r]?.toList⟩

variable {c : Roster σ φ α} {r r' : Nat}

theorem getElem?_only : (c.only r).runs[0]? = c.runs[r]? := by
  cases h : c.runs[r]? <;> simp [only, h]

theorem only_modifyRun_self (f : Run σ φ α → Run σ φ α) :
    (c.modifyRun r f).only r = (c.only r).modifyRun 0 f := by
  cases h : c.runs[r]? <;> simp [only, modifyRun, h]

theorem only_modifyRun_other (h : r' ≠ r) (f : Run σ φ α → Run σ φ α) :
    (c.modifyRun r' f).only r = c.only r := by
  simp [only, modifyRun, h]

theorem observers_only : (c.only r).observers 0 = c.observers r := by
  rw [observers, observers, getElem?_only]

theorem drive_only {run : Run σ φ α} {t : Ticket φ} (hr : c.runs[t.run]? = some run)
    (spans : List Log.Span) :
    let told := (drive t).run spans c
    (drive t.alone).run spans (c.only t.run) =
      ⟨told.value.alone, told.notes.map Line.alone, told.state.only t.run⟩ := by
  have hr' : (c.only t.run).runs[t.alone.run]? = some run := getElem?_only.trans hr
  have hlines : ∀ notes : List (Note α),
      (notes.map (Line.mk t.run)).map Line.alone = notes.map (Line.mk 0) := by
    intro notes
    simp [Line.alone]
  rw [run_drive hr, run_drive hr']
  dsimp only [Ticket.alone, Roster.only]
  generalize (run.config.proceed t.attempt t.stage).run _ _ = told
  obtain ⟨step, notes, s⟩ := told
  cases step with
  | suspended operation pause => simp only [hlines]; rfl
  | settled outcome =>
      have hobservers : (⟨s, c.runs[t.run]?.toList⟩ : Roster σ φ α).observers 0 =
          (⟨s, c.runs⟩ : Roster σ φ α).observers t.run := observers_only (c := ⟨s, c.runs⟩)
      have hstate := only_modifyRun_self (c := ⟨s, c.runs⟩) (r := t.run) fun run =>
        { run with slot := .settled outcome }
      simp only [run_settle, unheard, hobservers, List.map_append, hlines]
      exact congrArg (Told.mk _ _) hstate.symm
  | retry delay => simp only [List.map_append, hlines]; rfl

end Roster

/-- What a sight of run `r` is where there is no other run. -/
def Sight.alone? (r : Nat) : Sight φ α → Option (Sight φ α)
  | line l => if l.run = r then some (.line l.alone) else none
  | dropped t => if t.run = r then some (.dropped t.alone) else none

namespace World

/-- The world of run `r` alone. -/
def only (w : World σ φ α) (r : Nat) : World σ φ α :=
  ⟨w.roster.only r, (w.heldBy r).map Ticket.alone⟩

/-- What is seen of run `r`. -/
def sightsOf (r : Nat) (seen : List (Sight φ α)) : List (Sight φ α) :=
  seen.filterMap (Sight.alone? r)

/-- What a move is to run `r`. Of a poll of another run there is left what it does to what callers'
code shares. -/
def alone (w : World σ φ α) (r : Nat) : Move σ φ α → List (Move σ φ α)
  | .launch config spans fate =>
    if w.roster.runs.length = r then [.launch config spans fate] else []
  | .poll place fate =>
    match w.held[place]? with
    | none => []
    | some t =>
      if t.run = r then [.poll 0 fate]
      else [.outside fun _ => (w.perform (.poll place fate)).2.roster.env]
  | .discard place =>
    match w.held[place]? with
    | none => []
    | some t => if t.run = r then [.discard 0] else []
  | .share run => if run = r then [.share 0] else []
  | .release run => if run = r then [.release 0] else []
  | .outside effect => [.outside effect]

def aloneAll (w : World σ φ α) (r : Nat) : List (Move σ φ α) → List (Move σ φ α)
  | [] => []
  | m :: ms => w.alone r m ++ (w.perform m).2.aloneAll r ms

/-- What run `r` alone shows and leaves of what all runs do. -/
def projected (r : Nat) (x : List (Sight φ α) × World σ φ α) : List (Sight φ α) × World σ φ α :=
  (sightsOf r x.1, x.2.only r)

variable {w : World σ φ α} {r : Nat} {t : Ticket φ}

theorem sightsOf_append (r : Nat) (seen rest : List (Sight φ α)) :
    sightsOf r (seen ++ rest) = sightsOf r seen ++ sightsOf r rest :=
  List.filterMap_append

theorem sightsOf_lines_self {lines : List (Line α)} (h : ∀ line ∈ lines, line.run = r) :
    sightsOf r (lines.map .line : List (Sight φ α)) = (lines.map Line.alone).map .line := by
  rw [sightsOf, List.filterMap_map, List.map_map, ← List.filterMap_eq_map]
  refine List.filterMap_congr fun line hmem => ?_
  simp [Sight.alone?, h line hmem]

theorem sightsOf_lines_other {lines : List (Line α)} (h : ∀ line ∈ lines, line.run ≠ r) :
    sightsOf r (lines.map .line : List (Sight φ α)) = [] := by
  rw [sightsOf, List.filterMap_map, List.filterMap_eq_nil_iff]
  intro line hmem
  simp [Sight.alone?, h line hmem]

theorem lose_self (h : t.run = r) : (w.only r).lose t.alone = projected r (w.lose t) := by
  subst h
  refine Prod.ext ?_ ?_
  · simp [World.lose, projected, sightsOf, Sight.alone?]
  · exact congrArg (World.mk · _) (Roster.only_modifyRun_self _).symm

theorem lose_other (h : t.run ≠ r) : projected r (w.lose t) = ([], w.only r) := by
  refine Prod.ext ?_ ?_
  · simp [World.lose, projected, sightsOf, Sight.alone?, h]
  · exact congrArg (World.mk · _) (Roster.only_modifyRun_other h _)

theorem receive_self (h : t.run = r) (fate : Fate) :
    (w.only r).receive t.alone fate = projected r (w.receive t fate) := by
  cases fate with
  | kept => simp [World.receive, projected, sightsOf, only, heldBy, h]
  | _ => exact lose_self h

theorem receive_other (h : t.run ≠ r) (fate : Fate) :
    projected r (w.receive t fate) = ([], w.only r) := by
  cases fate with
  | kept => simp [World.receive, projected, sightsOf, only, heldBy, h]
  | _ => exact lose_other h

theorem afterPoll_self {d : Driven φ} (h : ∀ t ∈ d.ticket?, t.run = r) (fate : Fate) :
    (w.only r).afterPoll fate d.alone = projected r (w.afterPoll fate d) := by
  cases d with
  | suspended t pause => exact receive_self (h t rfl) .kept
  | finished => rfl
  | handedOver delay t => exact receive_self (h t rfl) fate

theorem afterPoll_other {d : Driven φ} (h : ∀ t ∈ d.ticket?, t.run ≠ r) (fate : Fate) :
    projected r (w.afterPoll fate d) = ([], w.only r) := by
  cases d with
  | suspended t pause => exact receive_other (h t rfl) .kept
  | finished => rfl
  | handedOver delay t => exact receive_other (h t rfl) fate

theorem only_modifyRun (w : World σ φ α) (run r : Nat) (f : Run σ φ α → Run σ φ α) :
    (⟨w.roster.modifyRun run f, w.held⟩ : World σ φ α).only r =
      if run = r then ⟨(w.only r).roster.modifyRun 0 f, (w.only r).held⟩ else w.only r := by
  split
  · next h =>
      subst h
      exact congrArg (World.mk · _) (Roster.only_modifyRun_self f)
  · next h => exact congrArg (World.mk · _) (Roster.only_modifyRun_other h f)

theorem afterSubmit_only (w : World σ φ α) (run r : Nat) (fate : Fate) :
    (w.afterSubmit run fate).only r =
      if run = r then (w.only r).afterSubmit 0 fate else w.only r := by
  cases fate with
  | panicked payload => exact only_modifyRun w run r _
  | _ => exact (ite_self _).symm

theorem addRun_only_self (run : Run σ φ α) :
    (⟨w.roster.addRun run, w.held⟩ : World σ φ α).only w.roster.runs.length =
      ⟨(w.only w.roster.runs.length).roster.addRun run,
        (w.only w.roster.runs.length).held⟩ := by
  simp [only, Roster.only, Roster.addRun, heldBy]

theorem addRun_only_other (run : Run σ φ α) (h : w.roster.runs.length ≠ r) :
    (⟨w.roster.addRun run, w.held⟩ : World σ φ α).only r = w.only r := by
  have hrun : (w.roster.runs ++ [run])[r]? = w.roster.runs[r]? := getElem?_concat_of_ne h.symm
  simp [only, Roster.only, Roster.addRun, heldBy, hrun]

theorem project_launch_self (w : World σ φ α) (config : Config σ φ α) (spans : List Log.Span)
    (fate : Fate) (h : w.roster.runs.length = r) :
    (w.only r).perform (.launch config spans fate) =
      projected r (w.perform (.launch config spans fate)) := by
  have hzero : (w.only r).roster.runs.length = 0 := by simp [only, Roster.only, ← h]
  have hadd := addRun_only_self (w := w) ⟨config, spans, .waiting, 1⟩
  have hreceive := receive_self (w := ⟨w.roster.addRun ⟨config, spans, .waiting, 1⟩, w.held⟩)
    (t := ⟨w.roster.runs.length, 1, .queued⟩) h fate
  have hlines : sightsOf r ([⟨w.roster.runs.length, .act .submitted⟩].map .line :
      List (Sight φ α)) = _ := sightsOf_lines_self (by simpa using h)
  rw [h] at hadd
  rw [hadd] at hreceive
  simp only [World.perform, Roster.run_launch, projected, sightsOf_append, afterSubmit_only,
    hzero, hlines, if_pos h]
  refine Prod.ext ?_ ?_
  · exact congrArg (_ :: ·.1) hreceive
  · exact congrArg (·.2.afterSubmit 0 fate) hreceive

theorem project_launch_other (w : World σ φ α) (config : Config σ φ α) (spans : List Log.Span)
    (fate : Fate) (h : w.roster.runs.length ≠ r) :
    projected r (w.perform (.launch config spans fate)) = ([], w.only r) := by
  obtain ⟨hseen, hafter⟩ := Prod.mk.inj (receive_other
    (w := ⟨w.roster.addRun ⟨config, spans, .waiting, 1⟩, w.held⟩)
    (t := ⟨w.roster.runs.length, 1, .queued⟩) h fate)
  have hlines : sightsOf r ([⟨w.roster.runs.length, .act .submitted⟩].map .line :
      List (Sight φ α)) = [] := sightsOf_lines_other (by simpa using h)
  simp only [World.perform, Roster.run_launch, projected, sightsOf_append, afterSubmit_only,
    hlines, hseen, hafter, if_neg h, addRun_only_other _ h, List.append_nil]

theorem heldBy_eraseIdx {place : Nat} (ht : w.held[place]? = some t) (h : t.run ≠ r) :
    (w.held.eraseIdx place).filter (fun t => t.run = r) = w.heldBy r := by
  obtain ⟨hlt, rfl⟩ := List.getElem?_eq_some_iff.mp ht
  have hsplit : w.held = w.held.take place ++ w.held[place] :: w.held.drop (place + 1) := by
    rw [List.getElem_cons_drop, List.take_append_drop]
  have hfilter := congrArg (List.filter fun t => t.run = r) hsplit
  rw [List.filter_append, List.filter_cons_of_neg (by simpa using h)] at hfilter
  rw [heldBy, List.eraseIdx_eq_take_drop_succ, List.filter_append]
  exact hfilter.symm

variable {past : List (Sight φ α)} {tl : Nat → List (Moment σ α)}

/-- A held ticket is the only one of its run. -/
theorem Balanced.heldBy_self (h : Balanced past tl w []) {place : Nat}
    (ht : w.held[place]? = some t) : w.heldBy t.run = [t] ∧
      (w.held.eraseIdx place).filter (fun t' => t'.run = t.run) = [] := by
  obtain ⟨-, -, -, -, -, -, -, hall, -⟩ :=
    (h.account t.run).of_mem (t := t) (by simp [List.mem_of_getElem? ht])
  obtain ⟨-, -, -, -, -, -, -, hrest, -⟩ := ((h.take ht).account t.run).of_mem (t := t) (by simp)
  exact ⟨by simpa [heldBy] using hall, by simpa using hrest⟩

theorem Balanced.project_poll_self (h : Balanced past tl w []) {place : Nat}
    (ht : w.held[place]? = some t) (fate : Fate) :
    (w.only t.run).perform (.poll 0 fate) = projected t.run (w.perform (.poll place fate)) := by
  obtain ⟨run, p, q, hrun, -, hd⟩ := (h.take ht).drives
  obtain ⟨hheld, hrest⟩ := h.heldBy_self ht
  have hself := Roster.drive_only hrun []
  have hlines := sightsOf_lines_self (φ := φ) (Roster.run_of_mem_drive w.roster t [])
  dsimp only at hself hd
  simp only [World.perform, ht, projected, sightsOf_append, hlines, only, hheld, List.map_cons,
    List.map_nil, List.getElem?_cons_zero, List.eraseIdx_cons_zero, hself]
  generalize (Roster.drive t).run [] w.roster = told at *
  have hafter := afterPoll_self (w := ⟨told.state, w.held.eraseIdx place⟩)
    (fun t' ht' => Phase.run_of_ticket? (hd.ticket ▸ ht')) fate
  simp only [only, heldBy, hrest, List.map_nil] at hafter
  rw [hafter]
  rfl

/-- To run `r`, a poll of another run is what it does to what callers' code shares. -/
theorem Balanced.project_poll_other (h : Balanced past tl w []) {place : Nat}
    (ht : w.held[place]? = some t) (fate : Fate) (hr : t.run ≠ r) :
    projected r (w.perform (.poll place fate)) =
      (w.only r).perform (.outside fun _ => (w.perform (.poll place fate)).2.roster.env) := by
  obtain ⟨run, p, q, -, -, hd⟩ := (h.take ht).drives
  have hlines := sightsOf_lines_other (φ := φ) fun line hline =>
    Roster.run_of_mem_drive w.roster t [] line hline ▸ hr
  simp only [World.perform, ht, projected, sightsOf_append, hlines]
  dsimp only at hd
  generalize (Roster.drive t).run [] w.roster = told at *
  obtain ⟨hseen, hafter⟩ := Prod.mk.inj (afterPoll_other
    (w := ⟨told.state, w.held.eraseIdx place⟩)
    (fun t' ht' => Phase.run_of_ticket? (hd.ticket ▸ ht') ▸ hr) fate)
  have honly : (⟨told.state, w.held.eraseIdx place⟩ : World σ φ α).only r =
      ⟨⟨told.state.env, w.roster.runs[r]?.toList⟩, (w.heldBy r).map Ticket.alone⟩ := by
    rw [only, heldBy, heldBy_eraseIdx ht hr, Roster.only, hd.runs, List.getElem?_set_ne hr]
  rw [hseen, hafter, honly, env_afterPoll]
  rfl

theorem Balanced.project_discard_self (h : Balanced past tl w []) {place : Nat}
    (ht : w.held[place]? = some t) :
    (w.only t.run).perform (.discard 0) = projected t.run (w.perform (.discard place)) := by
  obtain ⟨hheld, hrest⟩ := h.heldBy_self ht
  have hlose := lose_self (w := ⟨w.roster, w.held.eraseIdx place⟩) (t := t) rfl
  simp only [only, heldBy, hrest, List.map_nil] at hlose
  simp only [World.perform, ht, ← hlose]
  simp [only, hheld]

theorem project_discard_other {place : Nat} (ht : w.held[place]? = some t) (hr : t.run ≠ r) :
    projected r (w.perform (.discard place)) = ([], w.only r) := by
  simp only [World.perform, ht]
  rw [lose_other (w := ⟨w.roster, _⟩) hr]
  exact congrArg (fun held => ([], World.mk _ (held.map Ticket.alone))) (heldBy_eraseIdx ht hr)

/-- What one move is to run `r` shows and does the same in the world of run `r` alone. -/
theorem Balanced.project_perform (h : Balanced past tl w []) (m : Move σ φ α) (r : Nat) :
    (w.only r).play (w.alone r m) = projected r (w.perform m) := by
  cases m with
  | launch config spans fate =>
      by_cases hr : w.roster.runs.length = r
      · rw [alone, if_pos hr, play_singleton, project_launch_self w config spans fate hr]
      · rw [alone, if_neg hr, play_nil, project_launch_other w config spans fate hr]
  | poll place fate =>
      cases ht : w.held[place]? with
      | none => simp [alone, World.perform, ht, projected, sightsOf]
      | some t =>
          by_cases hr : t.run = r
          · subst hr
            simp only [alone, ht, if_pos, play_singleton, h.project_poll_self ht]
          · simp only [alone, ht, if_neg hr, play_singleton, h.project_poll_other ht fate hr]
  | discard place =>
      cases ht : w.held[place]? with
      | none => simp [alone, World.perform, ht, projected, sightsOf]
      | some t =>
          by_cases hr : t.run = r
          · subst hr
            simp only [alone, ht, if_pos, play_singleton, h.project_discard_self ht]
          · simp only [alone, ht, if_neg hr, play_nil, project_discard_other ht hr]
  | share run =>
      have hafter := only_modifyRun w run r fun run => { run with observers := run.observers + 1 }
      by_cases hr : run = r
      · rw [alone, if_pos hr, play_singleton]
        exact Prod.ext rfl (hafter.trans (if_pos hr)).symm
      · rw [alone, if_neg hr]
        exact Prod.ext rfl (hafter.trans (if_neg hr)).symm
  | release run =>
      have hafter := only_modifyRun w run r fun run => { run with observers := run.observers - 1 }
      by_cases hr : run = r
      · rw [alone, if_pos hr, play_singleton]
        exact Prod.ext rfl (hafter.trans (if_pos hr)).symm
      · rw [alone, if_neg hr]
        exact Prod.ext rfl (hafter.trans (if_neg hr)).symm
  | outside effect => rfl

theorem Balanced.project_play (h : Balanced past tl w []) (ms : List (Move σ φ α)) (r : Nat) :
    (w.only r).play (w.aloneAll r ms) = projected r (w.play ms) := by
  induction ms generalizing past tl w with
  | nil => rfl
  | cons m ms ih =>
      -- each move is projected in the world that the moves before it have left
      have hm := h.project_perform m r
      have hms := ih (h.perform m)
      simp only [projected] at hm hms
      rw [aloneAll, play_append, hm, hms, play_cons, projected, sightsOf_append]

/-- What all runs do shows of run `r` what a play shows in which nothing is started but that run,
and leaves the run as that play does. -/
theorem exists_alone (env : σ) (ms : List (Move σ φ α)) {r : Nat} {run : Run σ φ α}
    (hr : ((World.init env).play ms).2.roster.runs[r]? = some run) :
    ∃ alone : List (Move σ φ α), alone.filterMap Move.config? = [run.config] ∧
      (World.init env).play alone = projected r ((World.init env).play ms) := by
  have hplay : (World.init env).play ((World.init env).aloneAll r ms) =
      projected r ((World.init env).play ms) := (balanced_init env).project_play ms r
  refine ⟨(World.init env).aloneAll r ms, ?_, hplay⟩
  have hconfigs := (balanced_init env).configs_play ((World.init env).aloneAll r ms)
  have honly : (((World.init env).play ms).2.only r).configs = [run.config] := by
    simp [only, Roster.only, configs, hr]
  rw [hplay, projected, honly] at hconfigs
  exact hconfigs.symm

end World

end Reattempt
