import Reattempt.Proofs.World.Custody
import Reattempt.Proofs.World.Ledger

/-! # Interruptions are clean cuts

A run whose work is lost at some move has done up to there what it does on a scheduler that keeps
its work. After that it does nothing, and its observers are told that it was interrupted. -/

namespace Reattempt

variable {σ φ α : Type}

/-- The move of a scheduler that keeps all work: requests are kept, and nothing is discarded. -/
def Move.kept : Move σ φ α → List (Move σ φ α)
  | launch config spans _ => [launch config spans .kept]
  | poll place _ => [poll place .kept]
  | discard _ => []
  | m => [m]

/-- The last that a run does before it hands over to the next attempt is to ask for the wait. -/
theorem Roster.notes_of_handedOver {c : Roster σ φ α} {t next : Ticket φ} {delay : Duration}
    {spans : List Log.Span} (h : ((drive t).run spans c).value = .handedOver delay next) :
    ∃ lines, ((drive t).run spans c).notes = lines ++ [⟨t.run, .act (.requested delay)⟩] := by
  cases hr : c.runs[t.run]? with
  | none =>
      rw [run_drive_none hr] at h
      cases h
  | some run =>
      rw [run_drive hr] at h ⊢
      dsimp only at h ⊢
      generalize (run.config.proceed t.attempt t.stage).run _ _ = told at h ⊢
      obtain ⟨step, notes, s⟩ := told
      cases step with
      | retry d =>
          cases h
          exact ⟨_, rfl⟩
      | _ => cases h

/-- Where a ticket is dropped, its run has not settled and was not interrupted before. -/
theorem Custody.of_drop {r : Nat} {held drops now : List (Ticket φ)} {settled : List (Outcome α)}
    {told : Option (Outcome α)} (h : Custody r held (drops ++ now) settled told) (hd : now ≠ []) :
    drops = [] ∧ settled = [] ∧ told = some (.error .interrupted) := by
  generalize hall : drops ++ now = all at h
  cases h with
  | dropped t _ =>
      obtain ⟨rfl, -⟩ | ⟨-, rfl⟩ := List.append_eq_singleton_iff.mp hall
      · exact ⟨rfl, rfl, rfl⟩
      · exact absurd rfl hd
  | _ => exact absurd (List.append_eq_nil_iff.mp hall).2 hd

/-- A run is not over as long as it has not settled and no ticket of it was dropped. -/
theorem Custody.pending {r : Nat} {held : List (Ticket φ)} {settled : List (Outcome α)}
    {told : Option (Outcome α)} (h : Custody r held [] settled told) (hs : settled = []) :
    told = none := by
  cases h with
  | consumed => cases hs
  | _ => rfl

namespace World

variable {r : Nat}

/-! ## A lossy move beside the move that keeps all work -/

/-- Whether a scheduler loses work or not, a run does the same in one move. -/
theorem notesOf_kept (w : World σ φ α) (m : Move σ φ α) :
    notesOf r (w.play m.kept).1 = notesOf r (w.perform m).1 := by
  cases m with
  | launch config spans fate =>
      rw [Move.kept, play_singleton]
      simp only [World.perform, notesOf_append, notesOf_receive]
  | poll place fate =>
      rw [Move.kept, play_singleton]
      simp only [World.perform]
      cases w.held[place]? with
      | none => rfl
      | some t => simp only [notesOf_append, notesOf_afterPoll]
  | discard place =>
      simp only [World.perform]
      cases w.held[place]? <;> rfl
  | _ => rfl

/-- A scheduler that keeps all work drops nothing. -/
theorem dropsOf_kept (w : World σ φ α) (m : Move σ φ α) :
    dropsOf r (w.play m.kept).1 = [] := by
  cases m with
  | launch config spans fate =>
      rw [Move.kept, play_singleton]
      simp only [World.perform, dropsOf_append, dropsOf_lines]
      rfl
  | poll place fate =>
      rw [Move.kept, play_singleton]
      simp only [World.perform]
      cases w.held[place]? with
      | none => rfl
      | some t =>
          simp only [dropsOf_append, dropsOf_lines]
          cases ((Roster.drive t).run [] w.roster).value <;> rfl
  | _ => rfl

variable (env : σ) (ms : List (Move σ φ α))

/-- Work that is lost while it is handed over has been asked for by its run just before. -/
theorem requested_of_dropped {place : Nat} {fate : Fate}
    (h : dropsOf r (((World.init env).play ms).2.perform (.poll place fate)).1 ≠ []) :
    ∃ as delay, actsOf r (((World.init env).play ms).2.perform (.poll place fate)).1 =
      as ++ [.requested delay] := by
  have hb := balanced env ms
  generalize ((World.init env).play ms).2 = w at h hb ⊢
  cases ht : w.held[place]? with
  | none =>
      simp only [World.perform, ht] at h
      exact absurd rfl h
  | some t =>
      obtain ⟨run, p, q, -, -, hd⟩ := (hb.take ht).drives
      have hnotes : ∀ delay next, ((Roster.drive t).run [] w.roster).value =
          .handedOver delay next → _ := fun _ _ => Roster.notes_of_handedOver
      simp only [World.perform, ht, actsOf, notesOf_append, notesOf_afterPoll, List.append_nil,
        dropsOf_append, dropsOf_lines, List.nil_append, notesOf_lines] at h hd ⊢
      have hticket := hd.ticket
      generalize (Roster.drive t).run [] w.roster = told at h hticket hnotes ⊢
      obtain ⟨driven, notes, c⟩ := told
      cases driven with
      | suspended next pause => exact absurd rfl h
      | finished => exact absurd rfl h
      | handedOver delay next =>
          obtain ⟨lines, rfl⟩ := hnotes delay next rfl
          have hrun : next.run = t.run := Phase.run_of_ticket? hticket.symm
          have hr : t.run = r := by
            by_contra hne
            cases fate <;>
              simp [World.afterPoll, World.receive, World.lose, dropsOf, hrun, hne] at h
          subst hr
          refine ⟨(Roster.notesOf t.run lines).filterMap Note.act?, delay, ?_⟩
          rw [Roster.notesOf_append, List.filterMap_append]
          exact congrArg _ (congrArg _ (Roster.notesOf_self t.run [.act (.requested delay)]))

/-! ## Runs that are over -/

variable {env ms} {outcome : Outcome α}

theorem launched_of_told (h : ((World.init env).play ms).2.roster.outcome? r = some outcome) :
    r < ((World.init env).play ms).2.roster.runs.length := by
  by_contra hnone
  rw [Roster.outcome?, List.getElem?_eq_none (Nat.le_of_not_lt hnone)] at h
  cases h

theorem outcome?_play (h : ((World.init env).play ms).2.roster.outcome? r = some outcome)
    (later : List (Move σ φ α)) :
    ((World.init env).play (ms ++ later)).2.roster.outcome? r = some outcome := by
  have hr := launched_of_told h
  have hlate := custody env (ms ++ later) (length_runs_play env ms later hr)
  rw [play_append, dropsOf_append, settlementsOf_append] at hlate
  rw [play_append]
  exact (custody env ms hr).told_eq hlate h

/-- No move concerns a run that is over: nobody has its ticket. -/
theorem notes_perform_of_told
    (h : ((World.init env).play ms).2.roster.outcome? r = some outcome) (m : Move σ φ α) :
    notesOf r (((World.init env).play ms).2.perform m).1 = [] := by
  have hr := launched_of_told h
  have hheld := (custody env ms hr).unheld_of_told h
  cases (balanced env ms).concern m r with
  | quiet _ notes _ => exact notes
  | start new => exact absurd new (Nat.ne_of_lt hr)
  | @drive place fate t run p held _ _ ticket =>
      have hmem : t ∈ World.heldBy ((World.init env).play ms).2 r :=
        List.mem_filter.mpr ⟨List.mem_of_getElem? held, by simpa using Phase.run_of_ticket? ticket⟩
      rw [hheld] at hmem
      exact absurd hmem List.not_mem_nil

/-- Nothing more is seen of a run that is over. -/
theorem notes_play_of_told
    (h : ((World.init env).play ms).2.roster.outcome? r = some outcome)
    (later : List (Move σ φ α)) :
    notesOf r ((World.init env).play (ms ++ later)).1 =
      notesOf r ((World.init env).play ms).1 := by
  induction later generalizing ms with
  | nil => rw [List.append_nil]
  | cons m later ih =>
      have hstep := ih (outcome?_play h [m])
      rw [List.append_assoc, List.singleton_append] at hstep
      rw [hstep, play_append, notesOf_append, play_singleton, notes_perform_of_told h,
        List.append_nil]

/-! ## The cut -/

/-- Where a ticket is dropped, its run is interrupted, and had not been over before. -/
theorem interrupted_of_dropped {cut : Move σ φ α}
    (h : dropsOf r (((World.init env).play ms).2.perform cut).1 ≠ []) :
    let lossy := (World.init env).play (ms ++ [cut])
    lossy.2.roster.outcome? r = some (.error .interrupted) ∧ settlementsOf r lossy.1 = [] ∧
      dropsOf r ((World.init env).play ms).1 = [] := by
  intro lossy
  have hdrops : dropsOf r lossy.1 = dropsOf r ((World.init env).play ms).1 ++
      dropsOf r (((World.init env).play ms).2.perform cut).1 := by
    rw [show lossy = _ from play_append (World.init env) ms [cut], play_singleton, dropsOf_append]
  have hr : r < lossy.2.roster.runs.length := by
    by_contra hnone
    have ha := (balanced env (ms ++ [cut])).account r
    rw [List.getElem?_eq_none (Nat.le_of_not_lt hnone)] at ha
    exact h (List.append_eq_nil_iff.mp (hdrops.symm.trans ha.of_none.2.2.1)).2
  have hc := custody env (ms ++ [cut]) hr
  rw [hdrops] at hc
  obtain ⟨hbefore, hsettled, htold⟩ := hc.of_drop h
  exact ⟨htold, hsettled, hbefore⟩

/-- On a scheduler that keeps the work that was lost, no work of the run is lost so far, and the run
goes on to wait for its next turn. -/
theorem pending_of_kept {cut : Move σ φ α}
    (h : dropsOf r (((World.init env).play ms).2.perform cut).1 ≠ []) :
    let kept := (World.init env).play (ms ++ cut.kept)
    dropsOf r kept.1 = [] ∧ kept.2.roster.outcome? r = none := by
  intro kept
  obtain ⟨-, hsettled, hdrops⟩ := interrupted_of_dropped h
  have hplay : kept = _ := play_append (World.init env) ms cut.kept
  have hnotes : notesOf r kept.1 = notesOf r ((World.init env).play (ms ++ [cut])).1 := by
    rw [hplay, play_append, notesOf_append, notesOf_append, notesOf_kept, play_singleton]
  have hkept : dropsOf r kept.1 = [] := by
    rw [hplay, dropsOf_append, hdrops, dropsOf_kept, List.append_nil]
  refine ⟨hkept, ?_⟩
  by_cases hr : r < kept.2.roster.runs.length
  · have hc := custody env (ms ++ cut.kept) hr
    rw [settlementsOf, actsOf, hnotes, hkept] at hc
    exact hc.pending hsettled
  · rw [Roster.outcome?, List.getElem?_eq_none (Nat.le_of_not_lt hr)]
    rfl

/-- Losing the work of a run is a clean cut. Beside a play in which a scheduler loses the work that
it has in some move, take any play that is the same up to there and has the work kept. A run that
was over by then has the same outcome in both, and is seen to do the same. A run whose work is lost
is interrupted: it does not settle, what is seen of it is a beginning of what is seen of the run
whose work is kept, and nothing of it is seen after the cut, however the play goes on. Up to there
the other run has lost no work and is not over. If the work was lost while it was handed over, the
last that is seen is the request of the wait. -/
theorem interruption_cuts (env : σ) (before after more : List (Move σ φ α)) (cut : Move σ φ α)
    (r : Nat) :
    let w := ((World.init env).play before).2
    let lossy := (World.init env).play (before ++ cut :: after)
    let kept := (World.init env).play (before ++ cut.kept)
    let whole := (World.init env).play (before ++ cut.kept ++ more)
    (∀ outcome, w.roster.outcome? r = some outcome →
      lossy.2.roster.outcome? r = some outcome ∧ whole.2.roster.outcome? r = some outcome ∧
        notesOf r lossy.1 = notesOf r whole.1) ∧
    (dropsOf r (w.perform cut).1 ≠ [] →
      lossy.2.roster.outcome? r = some (.error .interrupted) ∧ settlementsOf r lossy.1 = [] ∧
        notesOf r lossy.1 = notesOf r kept.1 ∧ notesOf r lossy.1 <+: notesOf r whole.1 ∧
        dropsOf r kept.1 = [] ∧ kept.2.roster.outcome? r = none ∧
        ∀ place fate, cut = .poll place fate →
          ∃ as delay, actsOf r lossy.1 = as ++ [.requested delay]) := by
  intro w lossy kept whole
  refine ⟨fun outcome h => ?_, fun h => ?_⟩
  · have hwhole : whole = (World.init env).play (before ++ (cut.kept ++ more)) := by
      rw [← List.append_assoc]
    rw [hwhole]
    exact ⟨outcome?_play h _, outcome?_play h _,
      (notes_play_of_told h _).trans (notes_play_of_told h _).symm⟩
  · obtain ⟨htold, hsettled, -⟩ := interrupted_of_dropped h
    have hlossy : lossy = (World.init env).play ((before ++ [cut]) ++ after) := by
      rw [List.append_assoc, List.singleton_append]
    have hnotes : notesOf r lossy.1 = notesOf r ((World.init env).play before).1 ++
        notesOf r (w.perform cut).1 := by
      rw [hlossy, notes_play_of_told htold, play_append, play_singleton, notesOf_append]
    have hkept : notesOf r lossy.1 = notesOf r kept.1 := by
      rw [hnotes, show kept = _ from play_append (World.init env) before cut.kept, notesOf_append,
        notesOf_kept]
    obtain ⟨hdrops, hpending⟩ := pending_of_kept h
    refine ⟨?_, ?_, hkept, ?_, hdrops, hpending, ?_⟩
    · rw [hlossy]
      exact outcome?_play htold after
    · rw [hlossy, settlementsOf, actsOf, notes_play_of_told htold]
      exact hsettled
    · rw [hkept, show whole = _ from play_append (World.init env) (before ++ cut.kept) more,
        notesOf_append]
      exact List.prefix_append _ _
    · rintro place fate rfl
      obtain ⟨as, delay, hacts⟩ := requested_of_dropped env before h
      refine ⟨actsOf r ((World.init env).play before).1 ++ as, delay, ?_⟩
      rw [actsOf, hnotes, List.filterMap_append, List.append_assoc, ← hacts]
      rfl

/-- A run whose client is gone from the start. -/
def stillborn : Config Unit Unit Unit :=
  { Config.hopeless .standard with check := ⟨pure (.returned true)⟩ }

/-- The second run asks for its first wait while the scheduler loses all work. -/
def doomedMoves : List (Move Unit Unit Unit) :=
  [.launch stillborn [] .kept, .launch (.hopeless .standard) [] .kept, .poll 0 .kept]

/-- The first of these runs is over before the cut, and stays cancelled. The second is cut while it
hands over to its second attempt, and is interrupted. -/
theorem interruption_cuts_doomed :
    let lossy := (World.init ()).play (doomedMoves ++ .poll 0 .lost :: [.poll 0 .kept])
    let whole := (World.init ()).play
      (doomedMoves ++ [.poll 0 .kept] ++ List.replicate 2 (.poll 0 .kept))
    lossy.2.roster.outcome? 0 = some (.error (.cancelled "s-1")) ∧
      lossy.2.roster.outcome? 1 = some (.error .interrupted) ∧
      notesOf 1 lossy.1 <+: notesOf 1 whole.1 ∧
      (notesOf 1 lossy.1).length < (notesOf 1 whole.1).length := by
  intro lossy whole
  obtain ⟨hsettled, -⟩ := interruption_cuts () doomedMoves [.poll 0 .kept]
    (List.replicate 2 (.poll 0 .kept)) (.poll 0 .lost) 0
  obtain ⟨-, hcut⟩ := interruption_cuts () doomedMoves [.poll 0 .kept]
    (List.replicate 2 (.poll 0 .kept)) (.poll 0 .lost) 1
  obtain ⟨htold, -, -, hprefix, -⟩ := hcut (List.cons_ne_nil _ _)
  exact ⟨(hsettled _ rfl).1, htold, hprefix, by decide⟩

end World

end Reattempt
