import Reattempt.Proofs.Run.Attempts

/-! # What attempts add up to

An attempt that is followed by another passes its check once, fails with an accepted failure once
and asks for its wait once. -/

namespace Reattempt

variable {σ φ α : Type}

namespace Act

def request? : Act α → Option Duration
  | requested delay => some delay
  | _ => none

/-- A failure that the classifier accepts. -/
def accepts : Act α → Bool
  | classified _ (.returned true) => true
  | _ => false

/-- An act of a run whose client stays, and whose attempts fail with failures that the classifier
accepts. -/
def Persists : Act α → Prop
  | checked reply => reply = .returned false
  | polled (some (.returned (.ok _))) => False
  | classified _ reply => reply = .returned true
  | _ => True

end Act

/-- Acts among which no check passes, no failure is accepted and nothing is asked for. -/
def Quiet (acts : List (Act α)) : Prop :=
  ∀ a ∈ acts, a.request? = none ∧ a.accepts = false ∧ a.passes = false

namespace Quiet

variable {acts others : List (Act α)}

theorem append (h : Quiet acts) (h' : Quiet others) : Quiet (acts ++ others) := by
  intro a ha
  exact (List.mem_append.mp ha).elim (h a) (h' a)

theorem requests (h : Quiet acts) : acts.filterMap Act.request? = [] :=
  List.filterMap_eq_nil_iff.mpr fun a ha => (h a ha).1

theorem accepted (h : Quiet acts) : acts.countP Act.accepts = 0 := by
  rw [List.countP_eq_zero]
  intro a ha
  simp [(h a ha).2.1]

theorem passes (h : Quiet acts) : acts.countP Act.passes = 0 := by
  rw [List.countP_eq_zero]
  intro a ha
  simp [(h a ha).2.2]

end Quiet

theorem Effort.quiet {acts : List (Act α)} {result : Except Failure α} (h : Effort acts result) :
    Quiet acts := by
  intro a ha
  cases h with
  | refused payload =>
      obtain rfl : a = _ := by simpa using ha
      exact ⟨rfl, rfl, rfl⟩
  | _ =>
      simp only [List.mem_cons, List.mem_append, List.mem_replicate, List.not_mem_nil] at ha
      obtain rfl | ⟨-, rfl⟩ | rfl | ha := ha
      · exact ⟨rfl, rfl, rfl⟩
      · exact ⟨rfl, rfl, rfl⟩
      · exact ⟨rfl, rfl, rfl⟩
      · exact ha.elim

/-- An attempt that has not come to its end has passed its check, if it is under way. -/
theorem Begun.quiet {acts : List (Act α)} {stage : Stage φ} (h : Begun acts stage) :
    acts = [] ∧ stage = .queued ∨
      ∃ rest operation, acts = .checked (.returned false) :: rest ∧ Quiet rest ∧
        stage = .underway operation := by
  cases h with
  | queued => exact .inl ⟨rfl, rfl⟩
  | underway k operation =>
      refine .inr ⟨_, operation, rfl, ?_, rfl⟩
      intro a ha
      simp only [List.mem_cons, List.mem_replicate] at ha
      obtain rfl | ⟨-, rfl⟩ := ha
      · exact ⟨rfl, rfl, rfl⟩
      · exact ⟨rfl, rfl, rfl⟩

namespace Config

variable {c : Config σ φ α} {n : Nat} {acts : List (Act α)}

theorem Notice.quiet {f : Failure} (h : c.Notice f acts) : Quiet acts := by
  obtain ⟨replies, -, rfl⟩ := h
  intro a ha
  obtain ⟨reply, -, rfl⟩ := List.mem_map.mp ha
  exact ⟨rfl, rfl, rfl⟩

/-- An attempt that is followed by another passed its check, failed with an accepted failure, and
asked for its wait, all once. -/
theorem Attempt.requests (h : c.Attempt n acts none) :
    acts.filterMap Act.request? = [c.backoff.delay (.ofNat n)] ∧ acts.countP Act.accepts = 1 ∧
      acts.countP Act.passes = 1 := by
  cases h with
  | @retried acts f notice he hn =>
      have hq := he.quiet.append hn.quiet
      refine ⟨?_, ?_, ?_⟩
      · rw [List.filterMap_cons, List.filterMap_append, hq.requests]
        rfl
      · rw [List.countP_cons, List.countP_append, hq.accepted]
        rfl
      · rw [List.countP_cons, List.countP_append, hq.passes]
        rfl

/-- An attempt that decides its run asks for no wait. -/
theorem Attempt.no_requests {outcome : Outcome α} (h : c.Attempt n acts (some outcome)) :
    acts.filterMap Act.request? = [] := by
  cases h with
  | cancelled _ => rfl
  | succeeded he => exact he.quiet.requests
  | @rejected acts f notice reply he hn _ =>
      have hq := (he.quiet.append hn.quiet).requests
      rw [List.filterMap_cons_none rfl, List.filterMap_append, hq]
      rfl

/-- An attempt that decides its run has no failure that was accepted. -/
theorem Attempt.none_accepted {outcome : Outcome α} (h : c.Attempt n acts (some outcome)) :
    acts.countP Act.accepts = 0 := by
  cases h with
  | cancelled _ => rfl
  | succeeded he => exact he.quiet.accepted
  | @rejected acts f notice reply he hn hr =>
      have hq := (he.quiet.append hn.quiet).accepted
      have hj : (.classified f.bare reply : Act α).accepts = false := by
        rcases reply with (_ | _) | payload
        · rfl
        · exact absurd rfl hr
        · rfl
      rw [List.countP_cons, List.countP_append, hq, List.countP_singleton, hj]
      rfl

theorem Attempt.not_decided {outcome : Outcome α} (h : c.Attempt n acts (some outcome))
    (hp : ∀ a ∈ acts, a.Persists) : False := by
  cases h with
  | @cancelled reply hr => exact hr (hp (.checked reply) (by simp))
  | @succeeded acts value he =>
      cases he
      exact hp (.polled (some (.returned (.ok value)))) (by simp)
  | @rejected acts f notice reply _ _ hr => exact hr (hp (.classified f.bare reply) (by simp))

end Config

theorem countP_flatten_of_one {tries : List (List (Act α))} {p : Act α → Bool}
    (h : ∀ i (hi : i < tries.length), tries[i].countP p = 1) :
    tries.flatten.countP p = tries.length := by
  have hmap : tries.map (List.countP p) = List.replicate tries.length 1 := by
    refine List.ext_getElem (by simp) fun i hi _ => ?_
    simpa using h i (by simpa using hi)
  rw [List.countP_flatten, hmap]
  simp

/-- Attempts that were each followed by another asked for the waits of their numbers in turn. -/
theorem requests_flatten {c : Config σ φ α} {tries : List (List (Act α))}
    (h : ∀ i (hi : i < tries.length), c.Attempt (i + 1) tries[i] none) :
    tries.flatten.filterMap Act.request? =
      (List.range tries.length).map (fun i => c.backoff.delay (.ofNat (i + 1))) := by
  have hmap : tries.map (List.filterMap Act.request?) =
      (List.range tries.length).map fun i => [c.backoff.delay (.ofNat (i + 1))] := by
    refine List.ext_getElem (by simp) fun i hi _ => ?_
    simpa using (h i (by simpa using hi)).requests.1
  rw [List.filterMap_flatten, hmap, ← List.flatMap_def]
  exact List.map_eq_flatMap.symm

/-- What has been seen of a run that made the given attempts and has begun the next one. -/
structure Tally (c : Config σ φ α) (acts : List (Act α)) (k : Nat) (stage : Stage φ) : Prop where
  requests : acts.filterMap Act.request? =
    (List.range k).map fun i => c.backoff.delay (.ofNat (i + 1))
  accepted : acts.countP Act.accepts = k
  passes : acts.countP Act.passes = k ∧ stage = .queued ∨
    acts.countP Act.passes = k + 1 ∧ ∃ operation, stage = .underway operation

theorem Tally.of_tries {c : Config σ φ α} {tries : List (List (Act α))} {rest : List (Act α)}
    {stage : Stage φ} (h : ∀ i (hi : i < tries.length), c.Attempt (i + 1) tries[i] none)
    (hb : Begun rest stage) :
    Tally c (.submitted :: (tries.flatten ++ rest)) tries.length stage := by
  have hreq := requests_flatten h
  have hacc := countP_flatten_of_one fun i hi => (h i hi).requests.2.1
  have hpass := countP_flatten_of_one fun i hi => (h i hi).requests.2.2
  obtain ⟨rfl, rfl⟩ | ⟨rest, operation, rfl, hq, rfl⟩ := hb.quiet
  · rw [List.append_nil]
    exact ⟨hreq, hacc, .inl ⟨hpass, rfl⟩⟩
  · refine ⟨?_, ?_, .inr ⟨?_, operation, rfl⟩⟩
    · rw [List.filterMap_cons, List.filterMap_append, hreq, List.filterMap_cons, hq.requests]
      exact List.append_nil _
    · rw [List.countP_cons, List.countP_append, hacc, List.countP_cons, hq.accepted]
      rfl
    · rw [List.countP_cons, List.countP_append, hpass, List.countP_cons, hq.passes]
      rfl

/-- The attempts that were followed by another have asked for their waits in turn, and no other act
of a run asks for one. -/
theorem requests_of_tries {c : Config σ φ α} {tries : List (List (Act α))} {acts : List (Act α)}
    (h : ∀ i (hi : i < tries.length), c.Attempt (i + 1) tries[i] none)
    (hend : (∃ rest, ∃ stage : Stage φ, acts = .submitted :: (tries.flatten ++ rest) ∧
        Begun rest stage) ∨
      ∃ last outcome, acts = .submitted :: (tries.flatten ++ (last ++ [.settled outcome])) ∧
        c.Attempt (tries.length + 1) last (some outcome)) :
    acts.filterMap Act.request? =
      (List.range tries.length).map fun i => c.backoff.delay (.ofNat (i + 1)) := by
  obtain ⟨rest, stage, rfl, hbegun⟩ | ⟨last, outcome, rfl, hlast⟩ := hend
  · exact (Tally.of_tries h hbegun).requests
  · rw [List.filterMap_cons_none rfl, List.filterMap_append, requests_flatten h,
      List.filterMap_append, hlast.no_requests]
    exact List.append_nil _

/-- Each of these attempts has had one failure that was accepted, and there was no other. -/
theorem accepted_of_tries {c : Config σ φ α} {tries : List (List (Act α))} {acts : List (Act α)}
    (h : ∀ i (hi : i < tries.length), c.Attempt (i + 1) tries[i] none)
    (hend : (∃ rest, ∃ stage : Stage φ, acts = .submitted :: (tries.flatten ++ rest) ∧
        Begun rest stage) ∨
      ∃ last outcome, acts = .submitted :: (tries.flatten ++ (last ++ [.settled outcome])) ∧
        c.Attempt (tries.length + 1) last (some outcome)) :
    acts.countP Act.accepts = tries.length := by
  obtain ⟨rest, stage, rfl, hbegun⟩ | ⟨last, outcome, rfl, hlast⟩ := hend
  · exact (Tally.of_tries h hbegun).accepted
  · have htries := countP_flatten_of_one fun i hi => (h i hi).requests.2.1
    rw [List.countP_cons, List.countP_append, htries, List.countP_append, hlast.none_accepted]
    rfl

end Reattempt
