import Mathlib.Algebra.Group.Nat.Defs
import Reattempt.Proofs.Backoff.Lookup
import Reattempt.Proofs.World.Course
import Reattempt.Proofs.World.Custody
import Reattempt.Proofs.World.Hopeless

/-! # Runs that go on failing

There is no limit to the attempts of a run. The numbers that they carry are words, which begin again
after `2 ^ 32 - 1`, and with them the backoff table. -/

namespace Reattempt

variable {σ φ α : Type}

/-! ## Words -/

/-- The word of attempt `2 ^ 32` is zero, and its wait the first one. -/
theorem Backoff.delay_wrap (b : Backoff) :
    b.delay (.ofNat (2 ^ 32)) = b.waits.head b.waits_ne_nil := by
  rw [show UInt32.ofNat (2 ^ 32) = 0 from rfl, List.head_eq_getElem]
  simp [delay]

/-- Delays, asked for after the attempts from one on, that are all the table's last wait from the
end of the table on. -/
def Backoff.Saturates (b : Backoff) (delays : List Duration) : Prop :=
  ∀ i (hi : i < delays.length), b.length ≤ i + 1 → delays[i] = b.waits.getLast b.waits_ne_nil

theorem Backoff.saturates_of_lt (b : Backoff) {k : Nat} (hk : k < 2 ^ 32) :
    b.Saturates ((List.range k).map fun i => b.delay (.ofNat (i + 1))) := by
  intro i hi hl
  rw [List.length_map, List.length_range] at hi
  rw [List.getElem_map, List.getElem_range]
  have hword : (UInt32.ofNat (i + 1)).toNat = i + 1 :=
    UInt32.toNat_ofNat_of_lt' (Nat.lt_of_le_of_lt hi hk)
  exact b.delay_of_length_le (by rwa [hword])

theorem Backoff.not_saturates (b : Backoff) {k : Nat} (hl : b.length < 2 ^ 32)
    (hne : b.waits.head b.waits_ne_nil ≠ b.waits.getLast b.waits_ne_nil) (hk : 2 ^ 32 ≤ k) :
    ¬ b.Saturates ((List.range k).map fun i => b.delay (.ofNat (i + 1))) := by
  intro h
  have hwrap := h (2 ^ 32 - 1) (by simp; omega) (by omega)
  rw [List.getElem_map, List.getElem_range] at hwrap
  exact hne (b.delay_wrap ▸ hwrap)

/-- The numbers of attempts are words, and grow as long as no word is used twice. -/
theorem pairwise_numbers (n : Nat) :
    ((List.range n).map fun i => UInt32.ofNat (i + 1)).Pairwise (· < ·) ↔ n < 2 ^ 32 := by
  rw [List.pairwise_map]
  constructor
  · intro h
    by_contra hn
    have hlast := List.pairwise_iff_getElem.mp h 0 (2 ^ 32 - 1) (by simp; omega) (by simp; omega)
      (by omega)
    simp [UInt32.lt_iff_toNat_lt] at hlast
  · intro hn
    refine List.Pairwise.imp_of_mem ?_ List.pairwise_lt_range
    intro i j hi hj hij
    rw [List.mem_range] at hi hj
    rw [UInt32.lt_iff_toNat_lt, UInt32.toNat_ofNat', UInt32.toNat_ofNat']
    omega

/-- The number of the attempt whose spans these are. -/
def Log.attemptOf? (path : List Span) : Option UInt32 :=
  match path.getLast? with
  | some (.attempt _ _ number) => some number
  | _ => none

theorem Run.attemptOf?_path (run : Run σ φ α) (attempt : UInt32) :
    Log.attemptOf? (run.path attempt) = some attempt := by
  simp [Log.attemptOf?, Run.path]

/-! ## A run that goes on failing -/

namespace World

def requestsOf (r : Nat) (seen : List (Sight φ α)) : List Duration :=
  (actsOf r seen).filterMap Act.request?

/-- The numbers of the attempts that a run was seen to start. -/
def numbersOf (r : Nat) (seen : List (Sight φ α)) : List UInt32 :=
  (startsOf r seen).filterMap Log.attemptOf?

theorem numbersOf_eq (env : σ) (ms : List (Move σ φ α)) {r : Nat} {run : Run σ φ α}
    (hr : ((World.init env).play ms).2.roster.runs[r]? = some run) :
    numbersOf r ((World.init env).play ms).1 =
      (List.range ((actsOf r ((World.init env).play ms).1).countP Act.passes)).map
        fun i => .ofNat (i + 1) := by
  have hb := balanced env ms
  have ha := hb.account r
  rw [hr] at ha
  rw [numbersOf, ha.starts_eq, hb.acts, Run.starts, List.filterMap_map]
  simp [Function.comp_def, Run.attemptOf?_path]

/-- A run that goes on failing has made some attempts that were each followed by another, and
has begun the next one or is to make it. -/
theorem tally_of_persists (env : σ) (ms : List (Move σ φ α)) {r : Nat} {run : Run σ φ α}
    (hr : ((World.init env).play ms).2.roster.runs[r]? = some run)
    (hd : dropsOf r ((World.init env).play ms).1 = [])
    (hp : ∀ a ∈ actsOf r ((World.init env).play ms).1, a.Persists) :
    let seen := ((World.init env).play ms).1
    let w := ((World.init env).play ms).2
    let k := (actsOf r seen).countP Act.accepts
    ∃ stage, Tally run.config (actsOf r seen) k stage ∧
      w.heldBy r = [⟨r, .ofNat (k + 1), stage⟩] ∧ w.roster.outcome? r = none := by
  intro seen w k
  obtain ⟨tries, htries, hend⟩ := exists_tries env ms hr hd
  obtain ⟨rest, stage, hacts, hbegun, hheld, ho⟩ | ⟨last, outcome, hacts, hlast, -⟩ := hend
  · have htally := Tally.of_tries htries hbegun
    rw [← hacts] at htally
    have hk : tries.length = k := htally.accepted.symm
    rw [hk] at htally hheld
    exact ⟨stage, htally, hheld, ho⟩
  · exact (hlast.not_decided fun a ha => hp a (by simp [hacts, ha])).elim

/-- As long as no work of a run is lost, its check says that the client stays and its attempts fail
with failures that the classifier accepts, the run has asked once for the wait of each of them, has
not settled, and makes the next attempt, without any limit. But the numbers of its attempts grow,
and its waits stay at the end of the table, only as long as no word is used twice. -/
theorem unlimited_until_wrap (env : σ) (ms : List (Move σ φ α)) (r : Nat) (run : Run σ φ α)
    (hr : ((World.init env).play ms).2.roster.runs[r]? = some run)
    (hd : dropsOf r ((World.init env).play ms).1 = [])
    (hp : ∀ a ∈ actsOf r ((World.init env).play ms).1, a.Persists) :
    let seen := ((World.init env).play ms).1
    let w := ((World.init env).play ms).2
    let c := run.config
    let k := (actsOf r seen).countP Act.accepts
    requestsOf r seen = (List.range k).map (fun i => c.backoff.delay (.ofNat (i + 1))) ∧
      settlementsOf r seen = [] ∧ w.roster.outcome? r = none ∧
      (∃ stage, w.heldBy r = [⟨r, .ofNat (k + 1), stage⟩] ∧
        ∀ place fate, w.held[place]? = some ⟨r, .ofNat (k + 1), stage⟩ →
          actsOf r (w.perform (.poll place fate)).1 ≠ []) ∧
      (∀ place fate, w.held[place]? = some ⟨r, .ofNat (k + 1), .queued⟩ →
        (c.check.poll.run w.roster.env).1 = .returned false →
        ∃ reply rest, actsOf r (w.perform (.poll place fate)).1 =
          .checked (.returned false) :: .called reply :: rest) ∧
      (∃ n, (n = k ∨ n = k + 1) ∧ numbersOf r seen = (List.range n).map (fun i => .ofNat (i + 1)) ∧
        ((numbersOf r seen).Pairwise (· < ·) ↔ n < 2 ^ 32)) ∧
      (k < 2 ^ 32 → c.backoff.Saturates (requestsOf r seen)) ∧
      (2 ^ 32 ≤ k → c.backoff.length < 2 ^ 32 →
        c.backoff.waits.head c.backoff.waits_ne_nil ≠
          c.backoff.waits.getLast c.backoff.waits_ne_nil →
        ¬ c.backoff.Saturates (requestsOf r seen)) := by
  intro seen w c k
  obtain ⟨stage, htally, hheld, ho⟩ := tally_of_persists env ms hr hd hp
  have hreq : requestsOf r seen = (List.range k).map fun i => c.backoff.delay (.ofNat (i + 1)) :=
    htally.requests
  refine ⟨hreq, ?_, ho, ⟨stage, hheld, ?_⟩, ?_, ?_, ?_, ?_⟩
  · have hc := custody env ms (List.getElem?_eq_some_iff.mp hr).1
    rw [hheld] at hc
    exact hc.settled_of_mem (List.mem_singleton_self _)
  · intro place fate hplace
    exact acts_poll_ne_nil env ms hr hplace fate
  · intro place fate hplace hcheck
    rw [acts_perform, trail_poll hplace hr fate, if_pos rfl]
    exact run.trail_of_passes hcheck
  · rw [numbersOf_eq env ms hr, pairwise_numbers]
    exact ⟨_, htally.passes.imp And.left And.left, rfl, Iff.rfl⟩
  · intro hlt
    rw [hreq]
    exact c.backoff.saturates_of_lt hlt
  · intro hge hlen hne
    rw [hreq]
    exact c.backoff.not_saturates hlen hne hge

theorem unlimited_hopeless :
    requestsOf 0 ((World.init ()).play (hopelessMoves .standard 3)).1 =
      [.ofSecs 1, .ofSecs 1, .ofSecs 2] := by
  have hrun : ((World.init ()).play (hopelessMoves .standard 3)).2.roster.runs[0]? =
      some ⟨.hopeless .standard, [], .waiting, 1⟩ := rfl
  have h := unlimited_until_wrap () (hopelessMoves .standard 3) 0 _ hrun rfl
    (hopeless_persists .standard 3).1
  exact h.1

/-- After `2 ^ 32` accepted failures the numbers of a run have not always grown, and it has not
waited as long as the end of its table says. -/
theorem hopeless_wraps :
    let seen := ((World.init ()).play (hopelessMoves .standard (2 ^ 32))).1
    dropsOf 0 seen = [] ∧ (∀ a ∈ actsOf 0 seen, a.Persists) ∧
      (actsOf 0 seen).countP Act.accepts = 2 ^ 32 ∧ ¬ (numbersOf 0 seen).Pairwise (· < ·) ∧
      ¬ Backoff.standard.Saturates (requestsOf 0 seen) := by
  intro seen
  obtain ⟨hw, hd, -⟩ := play_hopeless .standard (2 ^ 32)
  obtain ⟨hp, ha, hpass⟩ := hopeless_persists .standard (2 ^ 32)
  have hrun : ((World.init ()).play (hopelessMoves .standard (2 ^ 32))).2.roster.runs[0]? =
      some ⟨.hopeless .standard, [], .waiting, 1⟩ := by
    rw [hw]
    rfl
  obtain ⟨stage, htally, -⟩ := tally_of_persists () (hopelessMoves .standard (2 ^ 32)) hrun hd hp
  refine ⟨hd, hp, ha, ?_, ?_⟩
  · rw [numbersOf_eq () _ hrun, hpass, pairwise_numbers]
    exact Nat.lt_irrefl _
  · have hreq := htally.requests
    rw [ha] at hreq
    rw [requestsOf, hreq]
    exact Backoff.standard.not_saturates (by decide) (by decide) (Nat.le_refl _)

end World

end Reattempt
