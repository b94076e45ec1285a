import Reattempt.Proofs.Run.Attempts
import Reattempt.Proofs.World.Account
import Reattempt.Proofs.World.Hopeless

/-! # The course of a run

What a run does as long as no scheduler loses its work: attempt after attempt, each with its acts
in order, up to the first attempt that decides the run. -/

namespace Reattempt.World

variable {σ φ α : Type}

/-- A run that has settled does nothing more, whatever its schedulers do. -/
theorem acts_after_settled (env : σ) (ms later : List (Move σ φ α)) {r : Nat} {as : List (Act α)}
    {outcome : Outcome α}
    (h : actsOf r ((World.init env).play ms).1 = as ++ [.settled outcome]) :
    actsOf r (((World.init env).play ms).2.play later).1 = [] := by
  have hacts := (balanced env (ms ++ later)).acts r
  rw [play_append, actsOf_append, h, List.append_assoc] at hacts
  have hne : (World.init env).timeline r (ms ++ later) ≠ [] := by
    intro hnil
    simp [hnil] at hacts
  obtain ⟨c, q, path, -⟩ := exists_path_of_ne_nil env (ms ++ later) hne
  exact (path.of_settled hacts.symm).1

/-- What any run has done, at any time: its submission, complete attempts that were followed by
another, and either what the next attempt has begun, whose ticket is held or was dropped, or the
attempt that decided the run. -/
theorem exists_course (env : σ) (ms : List (Move σ φ α)) {r : Nat} {run : Run σ φ α}
    (hr : ((World.init env).play ms).2.roster.runs[r]? = some run) :
    let seen := ((World.init env).play ms).1
    let w := ((World.init env).play ms).2
    ∃ tries : List (List (Act α)),
      (∀ i (hi : i < tries.length), run.config.Attempt (i + 1) tries[i] none) ∧
      ((∃ rest stage, actsOf r seen = .submitted :: (tries.flatten ++ rest) ∧ Begun rest stage ∧
          (w.heldBy r = [⟨r, .ofNat (tries.length + 1), stage⟩] ∧ dropsOf r seen = [] ∧
              w.roster.outcome? r = none ∨
            w.heldBy r = [] ∧ dropsOf r seen = [⟨r, .ofNat (tries.length + 1), stage⟩] ∧
              w.roster.outcome? r = some (.error .interrupted))) ∨
        ∃ last outcome,
          actsOf r seen = .submitted :: (tries.flatten ++ (last ++ [.settled outcome])) ∧
          run.config.Attempt (tries.length + 1) last (some outcome) ∧ w.heldBy r = [] ∧
          w.roster.outcome? r = some outcome) := by
  intro seen w
  obtain ⟨q, path, rest, hrest⟩ := exists_rest env ms hr
  have hacts : actsOf r seen = ((World.init env).timeline r ms).map Moment.act :=
    (balanced env ms).acts r
  have htold : w.roster.outcome? r = run.slot.outcome? := by
    rw [Roster.outcome?, hr]
    rfl
  obtain ⟨m, ns, hmoments, hm, hns⟩ := path.of_unstarted rest
  obtain ⟨tries, htries, hend⟩ := hns.attempts rest
  rw [hmoments, List.map_cons, hm] at hacts
  refine ⟨tries, fun i hi => Nat.add_comm 1 i ▸ htries i hi, ?_⟩
  rw [Nat.add_comm 1] at hend
  obtain ⟨part, stage, hpart, hbegun, hticket⟩ | ⟨last, outcome, hpart, hlast, rfl⟩ := hend
  · refine .inl ⟨part, stage, by rw [hacts, hpart], hbegun, ?_⟩
    rcases hrest with ⟨hslot, hheld, hdrops⟩ | ⟨t, ht, hslot, hheld, hdrops⟩
    · refine .inl ⟨?_, hdrops, ?_⟩
      · rw [hticket] at hheld
        exact hheld
      · rw [htold, hslot, Phase.slot_of_ticket? (hticket r)]
        rfl
    · obtain rfl : ⟨r, .ofNat (tries.length + 1), stage⟩ = t :=
        Option.some.inj ((hticket r).symm.trans ht)
      exact .inr ⟨hheld, hdrops, by rw [htold, hslot]; rfl⟩
  · rcases hrest with ⟨hslot, hheld, -⟩ | ⟨t, ht, -⟩
    · exact .inr ⟨last, outcome, by rw [hacts, hpart], hlast, hheld, by rw [htold, hslot]; rfl⟩
    · cases ht

/-- What a run has done as long as no work of it was lost. -/
theorem exists_tries (env : σ) (ms : List (Move σ φ α)) {r : Nat} {run : Run σ φ α}
    (hr : ((World.init env).play ms).2.roster.runs[r]? = some run)
    (hd : dropsOf r ((World.init env).play ms).1 = []) :
    let seen := ((World.init env).play ms).1
    let w := ((World.init env).play ms).2
    ∃ tries : List (List (Act α)),
      (∀ i (hi : i < tries.length), run.config.Attempt (i + 1) tries[i] none) ∧
      ((∃ rest stage, actsOf r seen = .submitted :: (tries.flatten ++ rest) ∧ Begun rest stage ∧
          w.heldBy r = [⟨r, .ofNat (tries.length + 1), stage⟩] ∧ w.roster.outcome? r = none) ∨
        ∃ last outcome,
          actsOf r seen = .submitted :: (tries.flatten ++ (last ++ [.settled outcome])) ∧
          run.config.Attempt (tries.length + 1) last (some outcome) ∧ w.heldBy r = [] ∧
          w.roster.outcome? r = some outcome) := by
  obtain ⟨tries, htries, ⟨rest, stage, hacts, hbegun, hticket⟩ | hlast⟩ := exists_course env ms hr
  · obtain ⟨hheld, -, htold⟩ | ⟨-, hdrops, -⟩ := hticket
    · exact ⟨tries, htries, .inl ⟨rest, stage, hacts, hbegun, hheld, htold⟩⟩
    · exact absurd (hdrops.symm.trans hd) (List.cons_ne_nil _ _)
  · exact ⟨tries, htries, .inr hlast⟩

/-- Whoever polls the ticket of a run sees the run go on. -/
theorem acts_poll_ne_nil (env : σ) (ms : List (Move σ φ α)) {t : Ticket φ} {run : Run σ φ α}
    (hr : ((World.init env).play ms).2.roster.runs[t.run]? = some run) {place : Nat}
    (ht : ((World.init env).play ms).2.held[place]? = some t) (fate : Fate) :
    actsOf t.run (((World.init env).play ms).2.perform (.poll place fate)).1 ≠ [] := by
  rw [acts_perform, trail_poll ht hr fate, if_pos rfl, ne_eq, List.map_eq_nil_iff]
  exact run.trail_ne_nil _ _

/-- As long as no work of a run is lost, its acts are its submission and then complete attempts,
numbered from one, each followed by another. After them, either the next attempt has been begun, a
scheduler holds its ticket, whoever polls that ticket sees the run go on, and observers are told
nothing; or that attempt has decided the run, observers are told how, and the run does nothing more,
whatever its schedulers do. All answers are those that the asked code gave. -/
theorem course_of_kept (env : σ) (ms : List (Move σ φ α)) (r : Nat) (run : Run σ φ α)
    (hr : ((World.init env).play ms).2.roster.runs[r]? = some run)
    (hd : dropsOf r ((World.init env).play ms).1 = []) :
    let seen := ((World.init env).play ms).1
    let w := ((World.init env).play ms).2
    let moments := (World.init env).timeline r ms
    (moments.map Moment.act = actsOf r seen ∧ ∃ q, run.config.Path .unstarted moments q) ∧
      ∃ tries : List (List (Act α)),
        (∀ i (hi : i < tries.length), run.config.Attempt (i + 1) tries[i] none) ∧
        ((∃ rest stage, actsOf r seen = .submitted :: (tries.flatten ++ rest) ∧ Begun rest stage ∧
            w.heldBy r = [⟨r, .ofNat (tries.length + 1), stage⟩] ∧
            (∀ place fate, w.held[place]? = some ⟨r, .ofNat (tries.length + 1), stage⟩ →
              actsOf r (w.perform (.poll place fate)).1 ≠ []) ∧
            w.roster.outcome? r = none) ∨
          ∃ last outcome,
            actsOf r seen = .submitted :: (tries.flatten ++ (last ++ [.settled outcome])) ∧
            run.config.Attempt (tries.length + 1) last (some outcome) ∧ w.heldBy r = [] ∧
            w.roster.outcome? r = some outcome ∧
            ∀ later, actsOf r (w.play later).1 = []) := by
  intro seen w moments
  obtain ⟨q, path, -⟩ := exists_path env ms hr
  refine ⟨⟨((balanced env ms).acts r).symm, q, path⟩, ?_⟩
  obtain ⟨tries, htries, hend⟩ := exists_tries env ms hr hd
  refine ⟨tries, htries, ?_⟩
  obtain ⟨part, stage, hacts, hbegun, hheld, ho⟩ | ⟨last, outcome, hacts, hlast, hheld, ho⟩ := hend
  · refine .inl ⟨part, stage, hacts, hbegun, hheld, ?_, ho⟩
    intro place fate hplace
    exact acts_poll_ne_nil env ms hr hplace fate
  · refine .inr ⟨last, outcome, hacts, hlast, hheld, ho, fun later => ?_⟩
    have hsettled : actsOf r seen =
        (.submitted :: (tries.flatten ++ last)) ++ [.settled outcome] := by
      rw [hacts]
      simp
    exact acts_after_settled env ms later hsettled

/-- After two attempts that were each followed by another, the third is waited for. -/
theorem course_of_kept_hopeless :
    ∃ tries : List (List (Act Unit)),
      (∀ i (hi : i < tries.length), (Config.hopeless .standard).Attempt (i + 1) tries[i] none) ∧
        actsOf 0 ((World.init ()).play (hopelessMoves .standard 2)).1 =
          .submitted :: tries.flatten := by
  have hrun : ((World.init ()).play (hopelessMoves .standard 2)).2.roster.runs[0]? =
      some ⟨.hopeless .standard, [], .waiting, 1⟩ := rfl
  have hdrops : dropsOf 0 ((World.init ()).play (hopelessMoves .standard 2)).1 = [] := rfl
  have hstage : (((World.init ()).play (hopelessMoves .standard 2)).2.heldBy 0).map Ticket.stage =
      [.queued] := rfl
  obtain ⟨-, tries, htries, ⟨rest, stage, hacts, hbegun, hheld, -⟩ | ⟨last, o, -, -, hheld, -⟩⟩ :=
    course_of_kept () (hopelessMoves .standard 2) 0 _ hrun hdrops
  · cases hbegun with
    | queued => exact ⟨tries, htries, by rw [hacts, List.append_nil]⟩
    | underway k operation =>
        rw [hheld] at hstage
        cases hstage
  · rw [hheld] at hstage
    cases hstage

end Reattempt.World
