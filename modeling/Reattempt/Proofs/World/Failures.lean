import Reattempt.Proofs.Run.Failures
import Reattempt.Proofs.World.Account

/-! # Two views of a failure

Whatever a run's operation fails with, and however often it was polled before, those who are asked
about the failure see it bare, and those who await the run see it whole. -/

namespace Reattempt.World

variable {σ φ α : Type}

theorem outcome?_of_settled {w : World σ φ α} {r : Nat} {run : Run σ φ α} {outcome : Outcome α}
    (hr : w.roster.runs[r]? = some run) (hs : run.slot = .settled outcome) :
    w.roster.outcome? r = some outcome := by
  rw [Roster.outcome?, hr, Option.bind_some, hs]
  rfl

/-- What follows the failure of an attempt: its cause is shown to the notifier and the classifier,
and the verdict either leads to a request or to the end of the run. -/
theorem failure_course (env : σ) (ms : List (Move σ φ α)) {r : Nat} {run : Run σ φ α}
    {front back : List (Moment σ α)} {m : Moment σ α} {f : Failure}
    (hr : ((World.init env).play ms).2.roster.runs[r]? = some run)
    (hm : (World.init env).timeline r ms = front ++ m :: back) (hf : m.act.failure? = some f) :
    ∃ notice j rest reply, back = notice ++ j :: rest ∧ run.config.Informs f.bare notice ∧
      run.config.Judges f.bare j reply ∧
      (reply = .returned true → ∃ delay later,
        rest.map Moment.act = .requested delay :: later) ∧
      (reply ≠ .returned true → rest.map Moment.act = [.settled (.error (.fatal f))] ∧
        ((World.init env).play ms).2.roster.outcome? r = some (.error (.fatal f))) := by
  obtain ⟨q, path, rest, slot⟩ := exists_rest env ms hr
  rw [hm] at path
  obtain ⟨notice, j, later, reply, rfl, hnotice, hj, hs⟩ := path.of_failure rest hf
  refine ⟨notice, j, later, reply, rfl, hnotice, hj, ?_, ?_⟩
  · intro htrue
    cases hs with
    | retry hk _ => exact ⟨_, _, by rw [List.map_cons, hk]⟩
    | fatal hne _ => exact absurd htrue hne
  · intro hne
    cases hs with
    | retry _ _ => exact absurd rfl hne
    | fatal _ hk =>
        refine ⟨by simp [hk], ?_⟩
        -- a finished run has no ticket that could be dropped
        obtain ⟨hslot, -⟩ | ⟨t, ht, -⟩ := slot
        · exact outcome?_of_settled hr hslot
        · cases ht

/-- A failure is a core with some completion layers. The notifier, if there is one, and the
classifier are called with the same cause, which is the failure with one layer less if it has one.
If the classifier does not accept it, the run ends with the failure as it was, which is then the
first of the outcome's sources. -/
theorem bare_cause_whole_outcome (env : σ) (ms : List (Move σ φ α)) (r : Nat) (run : Run σ φ α)
    (front back : List (Moment σ α)) (m : Moment σ α) (f : Failure)
    (hr : ((World.init env).play ms).2.roster.runs[r]? = some run)
    (hm : (World.init env).timeline r ms = front ++ m :: back) (hf : m.act.failure? = some f) :
    let seen := ((World.init env).play ms).1
    let w := ((World.init env).play ms).2
    actsOf r seen = (front ++ m :: back).map Moment.act ∧
      (∃ q, run.config.Path .unstarted (front ++ m :: back) q) ∧
      f = Failure.completion^[f.layers] f.core ∧
      f.bare = Failure.completion^[f.layers - 1] f.core ∧
      ∃ notice j rest reply, back = notice ++ j :: rest ∧ run.config.Informs f.bare notice ∧
        run.config.Judges f.bare j reply ∧
        (reply ≠ .returned true → rest.map Moment.act = [.settled (.error (.fatal f))] ∧
          w.roster.outcome? r = some (.error (.fatal f)) ∧
          (RunFailure.fatal f).rejected? = some f ∧
          (RunFailure.fatal f).chain = f :: f.chain) := by
  intro seen w
  have hacts : actsOf r seen = ((World.init env).timeline r ms).map Moment.act :=
    (balanced env ms).acts r
  obtain ⟨q, path, -⟩ := exists_path env ms hr
  rw [hm] at hacts path
  refine ⟨hacts, ⟨q, path⟩, f.completion_core.symm, f.bare_eq, ?_⟩
  obtain ⟨notice, j, rest, reply, hback, hnotice, hj, -, hfatal⟩ := failure_course env ms hr hm hf
  refine ⟨notice, j, rest, reply, hback, hnotice, hj, ?_⟩
  intro hne
  obtain ⟨hrest, houtcome⟩ := hfatal hne
  exact ⟨hrest, houtcome, rfl, rfl⟩

/-- An operation that is found pending once and then panics, with an observer and a classifier that
accepts nothing. -/
def unplugged : Config Unit Bool Unit where
  action := "fetch"
  session := "s-6"
  operation := ⟨pure (.returned false), fun polled => pure <|
    if polled then .done (.panicked (.text "lost connection")) else .pending true .zero⟩
  check := ⟨pure (.returned false)⟩
  scheduler := 0
  notifier := some ⟨fun _ => pure (.returned ())⟩
  classifier := .never
  backoff := .standard

def unpluggedMoves : List (Move Unit Bool Unit) :=
  [.launch unplugged [] .kept, .poll 0 .kept, .poll 0 .kept]

/-- The classifier saw the panic, and the run ended with the layer around it. -/
theorem bare_cause_unplugged :
    .classified (.panic "lost connection") (.returned false) ∈
        actsOf 0 ((World.init ()).play unpluggedMoves).1 ∧
      ((World.init ()).play unpluggedMoves).2.roster.outcome? 0 =
        some (.error (.fatal (.completion (.panic "lost connection")))) := by
  have hrun : ((World.init ()).play unpluggedMoves).2.roster.runs[0]? = some
      ⟨unplugged, [], .settled (.error (.fatal (.completion (.panic "lost connection")))), 1⟩ := rfl
  have htimeline : (World.init ()).timeline 0 unpluggedMoves =
      [⟨(), .submitted, ()⟩, ⟨(), .checked (.returned false), ()⟩, ⟨(), .called (.returned ()), ()⟩,
        ⟨(), .polled none, ()⟩] ++
      ⟨(), .polled (some (.panicked (.text "lost connection"))), ()⟩ ::
      [⟨(), .notified (.panic "lost connection") (.returned ()), ()⟩,
        ⟨(), .classified (.panic "lost connection") (.returned false), ()⟩,
        ⟨(), .settled (.error (.fatal (.completion (.panic "lost connection")))), ()⟩] := rfl
  obtain ⟨hacts, -, -, -, notice, j, rest, reply, hback, -, hj, hfatal⟩ :=
    bare_cause_whole_outcome () unpluggedMoves 0 _ _ _ _ _ hrun htimeline rfl
  have hreply : reply = .returned false := (Prod.mk.inj hj.answer).1.symm
  subst hreply
  refine ⟨?_, (hfatal (by simp)).2.1⟩
  have hmem : j.act ∈ actsOf 0 ((World.init ()).play unpluggedMoves).1 := by
    rw [hacts, hback]
    simp
  rwa [hj.act] at hmem

end Reattempt.World
