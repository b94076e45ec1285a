import Reattempt.Proofs.Run.Rules

/-! # What the rules keep

Facts about all paths of a run, each kept by every rule: calls of the operation do not overlap,
no attempt decides a run as interrupted, and nothing follows the settling of a run. -/

namespace Reattempt

variable {σ φ α : Type}

theorem Act.countP_cons (p : Act α → Bool) (a : Act α) (as : List (Act α)) :
    (a :: as).countP p = as.countP p + (p a).toNat := by
  rw [List.countP_cons]
  cases p a <;> rfl

theorem Act.filterMap_cons {β : Type} (see : Act α → Option β) (a : Act α) (as : List (Act α)) :
    (a :: as).filterMap see = (see a).toList ++ as.filterMap see := by
  rw [List.filterMap_cons]
  cases see a <;> rfl

/-! ## One call at a time -/

namespace Act

/-- A call that begins an operation. -/
def opens : Act α → Bool
  | called (.returned _) => true
  | _ => false

/-- A poll that brings an operation to its end. -/
def closes : Act α → Bool
  | polled (some _) => true
  | _ => false

def outcome? : Act α → Option (Outcome α)
  | settled outcome => some outcome
  | _ => none

end Act

/-- The number of operations that were begun and have not ended. -/
def Phase.open : Phase φ α → Nat
  | running _ _ => 1
  | _ => 0

namespace Config

variable {c : Config σ φ α} {p q : Phase φ α} {a : Act α} {m : Moment σ α}
  {ms : List (Moment σ α)}

/-- What the rules say of phases and acts alone: a failure leads to the notifier or past it, for
whatever reason. -/
inductive Edge (c : Config σ φ α) : Phase φ α → Act α → Phase φ α → Prop where
  | submit : Edge c .unstarted .submitted (.waiting 1)
  | pass {n} : Edge c (.waiting n) (.checked (.returned false)) (.cleared n)
  | stop {n reply} (h : reply ≠ .returned false) :
      Edge c (.waiting n) (.checked reply) (.decided n (.error (.cancelled c.session)))
  | begin {n operation} : Edge c (.cleared n) (.called (.returned ())) (.running n operation)
  | refuse {n payload failure} :
      Edge c (.cleared n) (.called (.panicked payload)) (.failed n failure)
  | refuseQuietly {n payload failure} :
      Edge c (.cleared n) (.called (.panicked payload)) (.reported n failure)
  | suspend {n operation next} : Edge c (.running n operation) (.polled none) (.running n next)
  | succeed {n operation value} : Edge c (.running n operation)
      (.polled (some (.returned (.ok value)))) (.decided n (.ok value))
  | fail {n operation reply failure} :
      Edge c (.running n operation) (.polled (some reply)) (.failed n failure)
  | failQuietly {n operation reply failure} :
      Edge c (.running n operation) (.polled (some reply)) (.reported n failure)
  | notify {n failure reply} :
      Edge c (.failed n failure) (.notified failure.bare reply) (.reported n failure)
  | accept {n failure} :
      Edge c (.reported n failure) (.classified failure.bare (.returned true)) (.accepted n)
  | reject {n failure reply} (h : reply ≠ .returned true) : Edge c (.reported n failure)
      (.classified failure.bare reply) (.decided n (.error (.fatal failure)))
  | request {n} : Edge c (.accepted n) (.requested (c.backoff.delay (.ofNat n))) (.waiting (n + 1))
  | settle {n outcome} : Edge c (.decided n outcome) (.settled outcome) (.finished n outcome)

theorem afterFailure_cases (c : Config σ φ α) (n : Nat) (f : Failure) :
    c.afterFailure n f = .failed n f ∨ c.afterFailure n f = .reported n f := by
  unfold afterFailure
  split
  · exact .inr rfl
  · exact .inl rfl

theorem Rule.edge (h : c.Rule p m q) : c.Edge p m.act q := by
  cases h with
  | submit s => exact .submit
  | pass _ => exact .pass
  | stop _ hr => exact .stop hr
  | begin _ => exact .begin
  | @refuse n _ _ payload _ =>
      rcases c.afterFailure_cases n (.ofPayload payload) with hf | hf <;> rw [hf]
      · exact .refuse
      · exact .refuseQuietly
  | suspend _ => exact .suspend
  | @finish n _ _ _ reply _ =>
      rcases reply with (f | value) | payload
      · rcases c.afterFailure_cases n f with hf | hf <;> rw [afterEnd, hf]
        · exact .fail
        · exact .failQuietly
      · exact .succeed
      · rcases c.afterFailure_cases n (.completion (.ofPayload payload)) with hf | hf <;>
          rw [afterEnd, hf]
        · exact .fail
        · exact .failQuietly
  | notify _ _ => exact .notify
  | accept _ => exact .accept
  | reject _ hr => exact .reject hr
  | request s => exact .request
  | settle s => exact .settle

theorem Edge.open_eq (h : c.Edge p a q) :
    a.opens.toNat + p.open = a.closes.toNat + q.open := by
  cases h <;> rfl

/-- Operations begun are those that have ended, and one more while the run is within a call. -/
theorem Path.open_eq (h : c.Path p ms q) :
    (ms.map Moment.act).countP Act.opens + p.open =
      (ms.map Moment.act).countP Act.closes + q.open := by
  induction h with
  | nil => rfl
  | @cons p q' r m ms hr _ ih =>
      have hm := hr.edge.open_eq
      simp only [List.map_cons, Act.countP_cons]
      omega

/-- When the operation is called, every operation begun before has ended. -/
theorem Path.closed_of_called {as : List (Act α)} {reply : Reply Unit}
    (h : c.Path .unstarted ms q) (ha : as ++ [.called reply] <+: ms.map Moment.act) :
    as.countP Act.opens = as.countP Act.closes := by
  obtain ⟨rest, hrest⟩ := ha
  rw [List.append_assoc, List.singleton_append] at hrest
  obtain ⟨ks, m, ns, p, p', -, rfl, hm, -, hp, hr, -⟩ := h.split_act hrest.symm
  have he := hr.edge
  rw [hm] at he
  have hopen : p.open = 0 := by
    cases he <;> rfl
  have heq := hp.open_eq
  rwa [hopen] at heq

end Config

/-! ## Outcomes -/

def Phase.verdict? : Phase φ α → Option (Outcome α)
  | decided _ outcome => some outcome
  | finished _ outcome => some outcome
  | _ => none

namespace Config

variable {c : Config σ φ α} {p q : Phase φ α} {a : Act α} {m : Moment σ α}
  {ms : List (Moment σ α)}

theorem Edge.not_interrupted (h : c.Edge p a q) (hp : p.verdict? ≠ some (.error .interrupted)) :
    q.verdict? ≠ some (.error .interrupted) := by
  cases h with
  | settle => exact hp
  | _ => simp [Phase.verdict?]

/-- No path interrupts a run: that is left to who drops its ticket. -/
theorem Path.not_interrupted (h : c.Path p ms q) (hp : p.verdict? ≠ some (.error .interrupted)) :
    q.verdict? ≠ some (.error .interrupted) := by
  induction h with
  | nil => exact hp
  | cons hr _ ih => exact ih (hr.edge.not_interrupted hp)

/-- Nothing follows the settling of a run. -/
theorem Path.of_settled {o : Outcome α} {as bs : List (Act α)} (h : c.Path p ms q)
    (ha : ms.map Moment.act = as ++ .settled o :: bs) : bs = [] ∧ ∃ n, q = .finished n o := by
  obtain ⟨ks, m, ns, p', q', -, -, hm, rfl, -, hr, ht⟩ := h.split_act ha
  cases hr <;> cases hm
  obtain ⟨rfl, rfl⟩ := ht.of_finished
  exact ⟨rfl, _, rfl⟩

theorem Edge.settlements (h : c.Edge p a q) :
    p.slot = .waiting ∧ q.slot.outcome? = a.outcome? := by
  cases h <;> exact ⟨rfl, rfl⟩

/-- A run that is over settled once, and one that is not has not settled. -/
theorem Path.settlements (h : c.Path p ms q) : (p.slot.outcome?).toList ++
    (ms.map Moment.act).filterMap Act.outcome? = (q.slot.outcome?).toList := by
  induction h with
  | nil => simp
  | @cons p q' r m ms hr _ ih =>
      obtain ⟨hp, hq⟩ := hr.edge.settlements
      rw [← ih, hp, hq]
      cases ho : m.act.outcome? <;> simp [ho, Slot.outcome?]

theorem Path.settlements_of_unstarted (h : c.Path .unstarted ms q) :
    (ms.map Moment.act).filterMap Act.outcome? = (q.slot.outcome?).toList :=
  h.settlements

end Config

/-! ## The count of attempts -/

/-- A check that lets its attempt go on. -/
def Act.passes : Act α → Bool
  | checked (.returned false) => true
  | _ => false

/-- The attempt that is the next to pass its check, while the run is not decided. -/
def Phase.due : Phase φ α → Nat
  | unstarted => 1
  | waiting n => n
  | cleared n | running n _ | failed n _ | reported n _ | accepted n => n + 1
  | decided _ _ | finished _ _ => 0

namespace Config

variable {c : Config σ φ α} {p q : Phase φ α} {a : Act α} {m : Moment σ α}
  {ms : List (Moment σ α)}

theorem Edge.due_eq (h : c.Edge p a q) (hq : q.verdict? = none) :
    p.verdict? = none ∧ p.due + a.passes.toNat = q.due := by
  cases h with
  | stop _ => cases hq
  | succeed => cases hq
  | reject _ => cases hq
  | settle => cases hq
  | _ => exact ⟨rfl, rfl⟩

/-- As long as a run is not decided, every attempt up to the one that is due has passed. -/
theorem Path.due_eq (h : c.Path p ms q) (hq : q.verdict? = none) :
    p.verdict? = none ∧ p.due + (ms.map Moment.act).countP Act.passes = q.due := by
  induction h with
  | nil => exact ⟨hq, rfl⟩
  | @cons p q' r m ms hr _ ih =>
      obtain ⟨hq', hdue⟩ := ih hq
      obtain ⟨hp, hm⟩ := hr.edge.due_eq hq'
      refine ⟨hp, ?_⟩
      rw [← hdue, ← hm, List.map_cons, Act.countP_cons]
      omega

theorem Path.passes_of_waiting {n : Nat} (h : c.Path .unstarted ms (.waiting n)) :
    n = (ms.map Moment.act).countP Act.passes + 1 := by
  have hdue := (h.due_eq rfl).2
  simp only [Phase.due] at hdue
  omega

end Config

end Reattempt
