import Reattempt.Backoff.Basic

/-!
# Fibonacci tables

Tables whose waits are a unit taken 1, 1, 2, 3, 5, … times. The multipliers are 32-bit words that
stop at the largest word, and the waits stop at the longest duration.
-/

namespace Reattempt.Backoff

/-- The sum of two words, the largest word where they exceed it. -/
def addWords (a b : UInt32) : UInt32 :=
  if a.toNat + b.toNat < UInt32.size then a + b else UInt32.ofNat (UInt32.size - 1)

/-- The next `n` multipliers, when `a` and `b` are the two before and at the current place. -/
def multipliersFrom (a b : UInt32) : Nat → List UInt32
  | 0 => []
  | n + 1 => b :: multipliersFrom b (addWords a b) n

/-- The first `n` multipliers of a Fibonacci table. -/
def multipliers (n : Nat) : List UInt32 := multipliersFrom 0 1 n

theorem length_multipliersFrom (a b : UInt32) (n : Nat) : (multipliersFrom a b n).length = n := by
  induction n generalizing a b with
  | zero => rfl
  | succ n ih => simp [multipliersFrom, ih]

/-- The number of entries in a Fibonacci table of the requested number of steps: at least one, and
no more than a word can count. -/
def fibonacciSteps (steps : Nat) : Nat := min (max steps 1) (UInt32.size - 1)

/-- A table following the Fibonacci sequence in multiples of `unit`. Zero steps still make a table
of one entry. -/
def fibonacci (unit : Duration) (steps : Nat) : Backoff where
  waits := (multipliers (fibonacciSteps steps)).map unit.scale
  waits_ne_nil := by
    have : 0 < fibonacciSteps steps := by unfold fibonacciSteps UInt32.size; omega
    intro h
    have := congrArg List.length h
    simp [multipliers, length_multipliersFrom] at this
    omega

end Reattempt.Backoff
