import Mathlib.Algebra.GroupWithZero.Nat
import Mathlib.Order.Monotone.Basic
import Reattempt.Proofs.Backoff.Lookup

/-! # Sums of waits

The planned total of a backoff table is the sum of the delays that a run would ask for, stopped at
the longest duration. -/

namespace Reattempt

/-- Durations can be added up exactly if and only if a duration can hold their sum. -/
theorem Duration.sum?_eq (ds : List Duration) : sum? ds = ofNanos? (ds.map nanos).sum := by
  suffices ∀ first, ds.foldlM add? first = ofNanos? (first.nanos + (ds.map nanos).sum) by
    have hzero := this zero
    rwa [nanos_zero, Nat.zero_add] at hzero
  induction ds with
  | nil =>
      intro first
      exact (ofNanos?_eq_some_iff.mpr rfl).symm
  | cons d ds ih =>
      intro first
      rw [List.foldlM_cons, List.map_cons, List.sum_cons, ← Nat.add_assoc]
      cases h : first.add? d with
      | none =>
          -- a sum that is too great does not get less by what is added later
          have hlarge : maxNanos < first.nanos + d.nanos := ofNanos?_eq_none_iff.mp h
          exact (ofNanos?_eq_none_iff.mpr (Nat.lt_add_right _ hlarge)).symm
      | some sum =>
          rw [← ofNanos?_eq_some_iff.mp h]
          exact ih sum

namespace Backoff

variable (b : Backoff)

/-- The exact sum of the delays after the first `failures` attempts, in nanoseconds. -/
def waited (failures : Nat) : Nat :=
  ((List.range failures).map fun i => (b.delay (.ofNat (i + 1))).nanos).sum

theorem waited_succ (failures : Nat) :
    b.waited (failures + 1) = b.waited failures + (b.delay (.ofNat (failures + 1))).nanos := by
  simp [waited, List.range_succ]

/-- Attempts past the end of the table wait as long as the last entry says. -/
theorem waited_eq {failures : Nat} (h : failures < UInt32.size) :
    b.waited failures = ((b.waits.take failures).map Duration.nanos).sum +
      b.lastWait.nanos * (failures - b.length) := by
  induction failures with
  | zero => simp [waited]
  | succ n ih =>
      have hword : (UInt32.ofNat (n + 1)).toNat = n + 1 := UInt32.toNat_ofNat_of_lt' h
      rw [waited_succ, ih (by omega)]
      by_cases hn : n < b.length
      · have hdelay := b.getElem?_delay (.ofNat (n + 1))
        have hplace : min (max (n + 1) 1) b.length - 1 = n := by omega
        have hbefore : n - b.length = 0 := by omega
        have hafter : n + 1 - b.length = 0 := by omega
        rw [hword, hplace] at hdelay
        rw [List.take_add_one, hdelay, hbefore, hafter, List.map_append, List.sum_append]
        simp
      · have hlast : b.delay (.ofNat (n + 1)) = b.lastWait := by
          rw [b.lastWait_eq (by omega), b.delay_of_length_le (by omega)]
        have hsucc : n + 1 - b.length = n - b.length + 1 := by omega
        have hall : b.waits.length ≤ n := Nat.le_of_not_lt hn
        rw [hlast, hsucc, Nat.mul_succ, List.take_of_length_le hall,
          List.take_of_length_le (Nat.le_succ_of_le hall), Nat.add_assoc]

theorem take_covered (failures : Nat) :
    b.waits.take (min failures b.length) = b.waits.take failures := by
  rw [← List.take_take, length, List.take_length]

/-- There is a total unless the listed waits alone exceed a duration, and it is the sum of all
delays, stopped at the longest duration. -/
theorem total?_eq (failures : UInt32) : b.total? failures =
    if ((b.waits.take failures.toNat).map Duration.nanos).sum ≤ Duration.maxNanos then
      some (.clamp (b.waited failures.toNat)) else none := by
  simp only [total?, b.take_covered, Duration.sum?_eq, Duration.ofNanos?]
  split
  · next h =>
      have hbeyond : failures.toNat - min failures.toNat b.length = failures.toNat - b.length := by
        omega
      have hword : failures.toNat - b.length < UInt32.size :=
        Nat.lt_of_le_of_lt (Nat.sub_le _ _) failures.toNat_lt
      rw [Option.map_some, hbeyond]
      refine congrArg some (Duration.ext ?_)
      rw [Duration.nanos_add, Duration.nanos_scale, Duration.nanos_clamp,
        b.waited_eq failures.toNat_lt, UInt32.toNat_ofNat_of_lt' hword]
      dsimp only
      omega
  · rfl

theorem total?_of_listed_le {failures : Nat} (hword : failures < UInt32.size)
    (h : ((b.waits.take failures).map Duration.nanos).sum ≤ Duration.maxNanos) :
    b.total? (.ofNat failures) = some (.clamp (b.waited failures)) := by
  rw [total?_eq, UInt32.toNat_ofNat_of_lt' hword, if_pos h]

/-- Where a duration can hold the sum of the delays, that is the total. -/
theorem total?_of_le {failures : Nat} (hword : failures < UInt32.size)
    (h : b.waited failures ≤ Duration.maxNanos) :
    b.total? (.ofNat failures) = some ⟨b.waited failures, h⟩ := by
  have hlisted : ((b.waits.take failures).map Duration.nanos).sum ≤ Duration.maxNanos := by
    have heq := b.waited_eq hword
    omega
  rw [b.total?_of_listed_le hword hlisted]
  exact congrArg some (Duration.ext (Nat.min_eq_left h))

theorem total?_eq_none_iff {failures : UInt32} : b.total? failures = none ↔
    Duration.maxNanos < ((b.waits.take failures.toNat).map Duration.nanos).sum := by
  rw [total?_eq]
  split
  · next h => simpa only [reduceCtorEq, false_iff, Nat.not_lt] using h
  · next h => simpa only [true_iff] using Nat.lt_of_not_le h

theorem nanos_total? {failures : UInt32} {total : Duration} (h : b.total? failures = some total) :
    total.nanos = min (b.waited failures.toNat) Duration.maxNanos := by
  rw [total?_eq] at h
  split at h
  · cases h
    rfl
  · cases h

/-! ## Growing totals -/

theorem waited_mono : Monotone b.waited :=
  monotone_nat_of_le_succ fun failures => b.waited_succ failures ▸ Nat.le_add_right _ _

theorem listed_le {less more : Nat} (h : less ≤ more) :
    ((b.waits.take less).map Duration.nanos).sum ≤
      ((b.waits.take more).map Duration.nanos).sum := by
  obtain ⟨rest, hrest⟩ := List.take_prefix_take_left (l := b.waits) h
  rw [← hrest, List.map_append, List.sum_append]
  exact Nat.le_add_right _ _

/-- Where there is a total for some number of failures, there is one for each smaller number, and it
is no greater. -/
theorem total?_mono {less more : UInt32} {total : Duration} (h : less ≤ more)
    (htotal : b.total? more = some total) :
    ∃ smaller, b.total? less = some smaller ∧ smaller.nanos ≤ total.nanos := by
  have hword : less.toNat ≤ more.toNat := UInt32.le_iff_toNat_le.mp h
  cases hless : b.total? less with
  | none =>
      have hlarge := b.total?_eq_none_iff.mp hless
      have hnone := b.total?_eq_none_iff.mpr (Nat.lt_of_lt_of_le hlarge (b.listed_le hword))
      rw [hnone] at htotal
      cases htotal
  | some smaller =>
      refine ⟨smaller, rfl, ?_⟩
      have hwaited := b.waited_mono hword
      rw [b.nanos_total? hless, b.nanos_total? htotal]
      omega

/-- One more failure adds its own delay, stopped at the longest duration. -/
theorem total?_succ {failures : UInt32} {total next : Duration}
    (hword : failures.toNat + 1 < UInt32.size) (htotal : b.total? failures = some total)
    (hnext : b.total? (failures + 1) = some next) : next = total.add (b.delay (failures + 1)) := by
  have hsucc : (failures + 1).toNat = failures.toNat + 1 := by
    rw [UInt32.toNat_add]
    exact Nat.mod_eq_of_lt hword
  have hdelay : UInt32.ofNat (failures.toNat + 1) = failures + 1 := by
    rw [← hsucc, UInt32.ofNat_toNat]
  apply Duration.ext
  rw [Duration.nanos_add, b.nanos_total? hnext, b.nanos_total? htotal, hsucc, waited_succ, hdelay]
  omega

/-- The planned total is the sum of all the delays that a run would ask for, stopped at the longest
duration. There is none, and to ask for it is a panic, exactly if the listed waits among these
delays are too long alone. So the total grows with the number of failures as far as there is one,
and each failure adds its own delay, stopped at the longest duration again. -/
theorem total_of_delays (failures : UInt32) :
    (b.total? failures = none ↔ Duration.maxNanos <
        ((b.waits.take (min failures.toNat b.length)).map Duration.nanos).sum) ∧
      (∀ total, b.total? failures = some total →
        total.nanos = min (b.waited failures.toNat) Duration.maxNanos) ∧
      (∀ more total, failures ≤ more → b.total? more = some total →
        ∃ smaller, b.total? failures = some smaller ∧ smaller.nanos ≤ total.nanos) ∧
      (∀ total next, failures.toNat + 1 < UInt32.size → b.total? failures = some total →
        b.total? (failures + 1) = some next → next = total.add (b.delay (failures + 1))) := by
  refine ⟨?_, ?_, ?_, ?_⟩
  · rw [b.take_covered]
    exact b.total?_eq_none_iff
  · intro total
    exact b.nanos_total?
  · intro more total
    exact b.total?_mono
  · intro total next
    exact b.total?_succ

/-- One wait that is within a second of the longest duration leaves a total, and if it is made
twice, that is the longest duration. With one second more in the table there is no total of both. -/
theorem total_of_delays_overlong :
    let wait := Duration.ofSecs (.ofNat (UInt64.size - 1))
    let b : Backoff := ⟨[wait], List.cons_ne_nil _ _⟩
    let longer : Backoff := ⟨[wait, .ofSecs 1], List.cons_ne_nil _ _⟩
    b.total? 1 = some wait ∧ b.total? 2 = some .longest ∧
      Duration.longest = wait.add (b.delay 2) ∧ wait.nanos ≤ Duration.longest.nanos ∧
      longer.total? 2 = none := by
  intro wait b longer
  have hone : b.total? 1 = some wait := by decide
  have htwo : b.total? 2 = some .longest := by decide
  obtain ⟨-, -, hmono, hsucc⟩ := total_of_delays b 1
  obtain ⟨smaller, hsmaller, hle⟩ := hmono 2 .longest (by decide) htwo
  obtain rfl : smaller = wait := Option.some.inj (hsmaller.symm.trans hone)
  have hnone := (total_of_delays longer 2).1.mpr (by decide)
  exact ⟨hone, htwo, hsucc _ _ (by decide) hone htwo, hle, hnone⟩

end Backoff

end Reattempt
