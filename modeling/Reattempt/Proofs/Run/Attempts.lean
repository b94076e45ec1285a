import Reattempt.Proofs.Run.Invariants

/-! # The acts of an attempt

The words that the acts of an attempt may form, and the proof that a run which rests has done a
sequence of complete attempts, and after them nothing but what its last attempt has begun. -/

namespace Reattempt

variable {σ φ α : Type}

/-- The acts of calling the operation and polling it to its end, and what came of it. -/
inductive Effort : List (Act α) → Except Failure α → Prop where
  | refused (payload : Payload) : Effort [.called (.panicked payload)] (.error (.ofPayload payload))
  | ended (k : Nat) (result : Except Failure α) :
      Effort (.called (.returned ()) :: (List.replicate k (.polled none) ++
        [.polled (some (.returned result))])) result
  | burst (k : Nat) (payload : Payload) :
      Effort (.called (.returned ()) :: (List.replicate k (.polled none) ++
        [.polled (some (.panicked payload))])) (.error (.completion (.ofPayload payload)))

/-- The acts of an attempt that has not come to its end, and the stage of its ticket. -/
inductive Begun : List (Act α) → Stage φ → Prop where
  | queued : Begun [] .queued
  | underway (k : Nat) (operation : φ) :
      Begun (.checked (.returned false) :: .called (.returned ()) ::
        List.replicate k (.polled none)) (.underway operation)

namespace Config

/-- What is done to show a failure to the notifier, if there is one. -/
def Notice (c : Config σ φ α) (f : Failure) (acts : List (Act α)) : Prop :=
  ∃ replies : Option (Reply Unit), replies.isSome = c.notifier.isSome ∧
    acts = replies.toList.map (.notified f.bare)

/-- The acts of attempt `n`, and what it decides. An attempt that decides nothing is followed by
another. -/
inductive Attempt (c : Config σ φ α) (n : Nat) : List (Act α) → Option (Outcome α) → Prop where
  | cancelled {reply} (h : reply ≠ .returned false) :
      Attempt c n [.checked reply] (some (.error (.cancelled c.session)))
  | succeeded {acts value} (h : Effort acts (.ok value)) :
      Attempt c n (.checked (.returned false) :: acts) (some (.ok value))
  | rejected {acts f notice reply} (h : Effort acts (.error f)) (hn : c.Notice f notice)
      (hr : reply ≠ .returned true) :
      Attempt c n (.checked (.returned false) :: (acts ++ notice ++ [.classified f.bare reply]))
        (some (.error (.fatal f)))
  | retried {acts f notice} (h : Effort acts (.error f)) (hn : c.Notice f notice) :
      Attempt c n (.checked (.returned false) :: (acts ++ notice ++
        [.classified f.bare (.returned true), .requested (c.backoff.delay (.ofNat n))])) none

/-- What a run does that is to make attempt `n`: it begins the attempt, or comes to a decision in
it, or goes on to the next one. -/
inductive Course (c : Config σ φ α) (n : Nat) : List (Moment σ α) → Phase φ α → Prop where
  | waiting : Course c n [] (.waiting n)
  | running {ms operation} (h : Begun (ms.map Moment.act) (.underway operation)) :
      Course c n ms (.running n operation)
  | finished {ms acts outcome} (h : c.Attempt n acts (some outcome))
      (hms : ms.map Moment.act = acts ++ [.settled outcome]) : Course c n ms (.finished n outcome)
  | next {ms ns q} (h : c.Attempt n (ms.map Moment.act) none)
      (hns : c.Path (.waiting (n + 1)) ns q) : Course c n (ms ++ ns) q

variable {c : Config σ φ α} {q : Phase φ α} {n : Nat} {ms ns : List (Moment σ α)}

/-- After an effort that failed, the failure is shown and judged. -/
theorem Path.course_of_failure {f : Failure} {acts : List (Act α)} {m : Moment σ α}
    {ks : List (Moment σ α)} (h : c.Path (c.afterFailure n f) ns q) (hq : q.AtRest)
    (hm : m.act = .checked (.returned false)) (hks : ks.map Moment.act = acts)
    (he : Effort acts (.error f)) : c.Course n (m :: (ks ++ ns)) q := by
  obtain ⟨ls, ns, notice, rfl, hnotice, hls, hp⟩ := h.of_afterFailure hq
  have hn : c.Notice f (ls.map Moment.act) := ⟨notice, hnotice, hls⟩
  obtain ⟨mj, ns, reply, rfl, hj, ⟨rfl, hp⟩ | ⟨hne, hp⟩⟩ := hp.of_reported hq
  · obtain ⟨mr, ns, rfl, hr, hp⟩ := hp.of_accepted hq
    have ha : c.Attempt n ((m :: (ks ++ ls ++ [mj, mr])).map Moment.act) none := by
      simpa [hm, hks, hj, hr] using Attempt.retried he hn
    simpa using Course.next ha hp
  · obtain ⟨hns, rfl⟩ := hp.of_decided hq
    refine .finished (.rejected he hn hne) ?_
    simp [hm, hks, hj, hns]

theorem Path.course (h : c.Path (.waiting n) ms q) (hq : q.AtRest) : c.Course n ms q := by
  obtain ⟨rfl, rfl⟩ | ⟨m, ms, reply, rfl, hm, ⟨rfl, h⟩ | ⟨hne, h⟩⟩ := h.of_waiting
  · exact .waiting
  · obtain ⟨mc, ns, rfl, ⟨hc, operation, h⟩ | ⟨payload, hc, h⟩⟩ := h.of_cleared hq
    · obtain ⟨k, next, hk, rfl⟩ | ⟨k, reply, ks, ns, rfl, hk, h⟩ := h.of_running
      · refine .running ?_
        simpa [hm, hc, hk] using Begun.underway k next
      · have hks : (mc :: ks).map Moment.act = .called (.returned ()) ::
            (List.replicate k (.polled none) ++ [.polled (some reply)]) := by simp [hc, hk]
        rcases reply with (f | value) | payload
        · exact h.course_of_failure hq hm hks (.ended k _)
        · obtain ⟨hns, rfl⟩ := h.of_decided hq
          refine .finished (.succeeded (.ended k (.ok value))) ?_
          simp [hm, hc, hk, hns]
        · exact h.course_of_failure hq hm hks (.burst k payload)
    · have hks : [mc].map Moment.act = [.called (.panicked payload)] := by simp [hc]
      exact h.course_of_failure hq hm hks (.refused payload)
  · obtain ⟨hns, rfl⟩ := h.of_decided hq
    exact .finished (.cancelled hne) (by simp [hm, hns])

theorem Attempt.ne_nil {acts : List (Act α)} {o : Option (Outcome α)} (h : c.Attempt n acts o) :
    acts ≠ [] := by
  cases h <;> simp

/-- A run that rests has made some attempts that were followed by another, and has begun the next
one or come to a decision in it. -/
theorem Path.attempts (h : c.Path (.waiting n) ms q) (hq : q.AtRest) :
    ∃ tries : List (List (Act α)),
      (∀ i (hi : i < tries.length), c.Attempt (n + i) tries[i] none) ∧
        ((∃ rest stage, ms.map Moment.act = tries.flatten ++ rest ∧ Begun rest stage ∧
            ∀ r, q.ticket? r = some ⟨r, .ofNat (n + tries.length), stage⟩) ∨
          ∃ last outcome, ms.map Moment.act = tries.flatten ++ (last ++ [.settled outcome]) ∧
            c.Attempt (n + tries.length) last (some outcome) ∧
            q = .finished (n + tries.length) outcome) := by
  -- by the number of moments, since no attempt is without acts
  induction hl : ms.length using Nat.strongRecOn generalizing n ms with
  | ind l ih =>
      cases h.course hq with
      | waiting => exact ⟨[], by simp, .inl ⟨[], .queued, rfl, .queued, fun _ => rfl⟩⟩
      | running hb => exact ⟨[], by simp, .inl ⟨_, _, rfl, hb, fun _ => rfl⟩⟩
      | finished ha hms => exact ⟨[], by simp, .inr ⟨_, _, hms, ha, rfl⟩⟩
      | @next ks ns _ ha hns =>
          have hlt : ns.length < l := by
            have hks : ks ≠ [] := fun hks => ha.ne_nil (by simp [hks])
            have := List.length_pos_iff.mpr hks
            simp only [List.length_append] at hl
            omega
          obtain ⟨tries, htries, hend⟩ := ih ns.length hlt hns rfl
          refine ⟨ks.map Moment.act :: tries, ?_, ?_⟩
          · intro i hi
            cases i with
            | zero => exact ha
            | succ i =>
                have := htries i (by simpa using hi)
                rwa [Nat.add_right_comm, Nat.add_assoc] at this
          · have hn : n + 1 + tries.length = n + (tries.length + 1) := by omega
            rw [hn] at hend
            simpa [List.append_assoc] using hend

end Config

end Reattempt
