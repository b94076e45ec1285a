import Mathlib.Data.Nat.Fib.Basic
import Reattempt.Backoff.Fibonacci

/-! # Fibonacci tables

The multipliers of a Fibonacci table are the Fibonacci numbers, each stopped at the largest word,
although the table adds up words that have been stopped before. -/

namespace Reattempt.Backoff

/-- A number as a word, the largest word where it is greater. -/
def word (n : Nat) : UInt32 := .ofNat (min n (UInt32.size - 1))

@[simp]
theorem toNat_word (n : Nat) : (word n).toNat = min n (UInt32.size - 1) :=
  UInt32.toNat_ofNat_of_lt' (Nat.lt_of_le_of_lt (Nat.min_le_right n _) (by decide))

theorem toNat_addWords (a b : UInt32) :
    (addWords a b).toNat = min (a.toNat + b.toNat) (UInt32.size - 1) := by
  unfold addWords
  split
  · next h =>
      rw [UInt32.toNat_add, Nat.mod_eq_of_lt h]
      omega
  · next h =>
      rw [UInt32.toNat_ofNat_of_lt' (by decide)]
      omega

/-- To stop two summands before they are added makes no difference to where their sum stops. -/
theorem addWords_word (m n : Nat) : addWords (word m) (word n) = word (m + n) := by
  apply UInt32.toNat_inj.mp
  rw [toNat_addWords, toNat_word, toNat_word, toNat_word]
  omega

/-- The two words that the recursion carries are always two successive Fibonacci numbers, stopped at
the largest word. -/
theorem multipliersFrom_fib (j n : Nat) :
    multipliersFrom (word (Nat.fib j)) (word (Nat.fib (j + 1))) n =
      (List.range n).map fun i => word (Nat.fib (j + i + 1)) := by
  induction n generalizing j with
  | zero => rfl
  | succ n ih =>
      rw [multipliersFrom, addWords_word, ← Nat.fib_add_two, ih (j + 1), List.range_succ_eq_map,
        List.map_cons, List.map_map]
      refine congrArg₂ List.cons rfl (List.map_congr_left fun i _ => ?_)
      rw [Function.comp_apply, Nat.succ_eq_add_one, Nat.add_right_comm j 1 i, Nat.add_assoc j i 1]

theorem multipliers_eq (n : Nat) :
    multipliers n = (List.range n).map fun i => word (Nat.fib (i + 1)) := by
  have h := multipliersFrom_fib 0 n
  simp only [Nat.zero_add] at h
  exact h

theorem fibonacciSteps_eq (steps : Nat) :
    fibonacciSteps steps = max 1 (min steps (UInt32.size - 1)) := by
  unfold fibonacciSteps UInt32.size
  omega

theorem waits_fibonacci (unit : Duration) (steps : Nat) :
    (fibonacci unit steps).waits =
      (List.range (fibonacciSteps steps)).map fun i => unit.scale (word (Nat.fib (i + 1))) := by
  have hwaits : (fibonacci unit steps).waits =
      (multipliers (fibonacciSteps steps)).map unit.scale := rfl
  rw [hwaits, multipliers_eq, List.map_map]
  rfl

/-- A greater multiplier does not make a wait shorter. -/
theorem scale_word_le (unit : Duration) {m n : Nat} (h : m ≤ n) :
    (unit.scale (word m)).nanos ≤ (unit.scale (word n)).nanos := by
  have hword : min m (UInt32.size - 1) ≤ min n (UInt32.size - 1) := by omega
  have hproduct := Nat.mul_le_mul_left unit.nanos hword
  rw [Duration.nanos_scale, Duration.nanos_scale, toNat_word, toNat_word]
  omega

/-- A Fibonacci table has as many entries as there are steps, but at least one, and no more than a
word can count. Its entries are the unit times the Fibonacci numbers, where the numbers stop at the
largest word and the products at the longest duration, and they never get shorter. No step wraps:
every multiplier is its Fibonacci number, or the largest word. -/
theorem fibonacci_stopped (unit : Duration) (steps : Nat) :
    (fibonacci unit steps).length = max 1 (min steps (2 ^ 32 - 1)) ∧
      (fibonacci unit steps).waits.map Duration.nanos =
        ((List.range (max 1 (min steps (2 ^ 32 - 1)))).map fun i =>
          min (unit.nanos * min (Nat.fib (i + 1)) (2 ^ 32 - 1)) Duration.maxNanos) ∧
      ((fibonacci unit steps).waits.Pairwise fun a b => a.nanos ≤ b.nanos) ∧
      ∀ n, (multipliers n).map UInt32.toNat =
        (List.range n).map fun i => min (Nat.fib (i + 1)) (2 ^ 32 - 1) := by
  refine ⟨?_, ?_, ?_, ?_⟩
  · rw [length, waits_fibonacci, List.length_map, List.length_range, fibonacciSteps_eq]
    rfl
  · rw [waits_fibonacci, List.map_map, fibonacciSteps_eq]
    refine List.map_congr_left fun i _ => ?_
    rw [Function.comp_apply, Duration.nanos_scale, toNat_word]
    rfl
  · rw [waits_fibonacci, List.pairwise_map]
    refine List.pairwise_lt_range.imp fun {i j} hij => ?_
    exact scale_word_le unit (Nat.fib_mono (by omega))
  · intro n
    rw [multipliers_eq, List.map_map]
    exact List.map_congr_left fun i _ => toNat_word _

/-- The forty-eighth Fibonacci number is the first that a word does not hold. -/
example : (multipliers 50).drop 46 = [2971215073, 4294967295, 4294967295, 4294967295] := by cbv

end Reattempt.Backoff
