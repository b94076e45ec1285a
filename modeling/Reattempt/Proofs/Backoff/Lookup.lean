import Mathlib.Data.Nat.PSub
import Reattempt.Backoff.Basic

/-! # Lookups in a backoff table

A lookup takes one from the number of entries and then asks for an entry by its place. In a bare
list of waits both steps can fail. In a table neither does, because it has an entry. -/

namespace Reattempt.Backoff

/-- The lookup in any list of waits. There is nothing before zero, and no entry past the end. -/
def lookup? (waits : List Duration) (attempt : UInt32) : Option Duration := do
  let last ← waits.length.ppred
  waits[min (attempt.toNat - 1) last]?

/-- Only in the empty list does a lookup fail, and there it always does. -/
theorem lookup?_eq_none_iff {waits : List Duration} {attempt : UInt32} :
    lookup? waits attempt = none ↔ waits = [] := by
  cases waits with
  | nil => simp [lookup?]
  | cons wait waits =>
      have hlt : min (attempt.toNat - 1) waits.length < (wait :: waits).length := by
        rw [List.length_cons]
        omega
      have hfound : lookup? (wait :: waits) attempt = some _ := List.getElem?_eq_getElem hlt
      rw [hfound]
      exact iff_of_false (Option.some_ne_none _) (List.cons_ne_nil _ _)

variable (b : Backoff)

theorem lookup?_waits (attempt : UInt32) : lookup? b.waits attempt = some (b.delay attempt) := by
  have hlast : b.waits.length.ppred = some (b.length - 1) := Nat.ppred_eq_pred b.length_pos
  rw [lookup?, hlast]
  exact List.getElem?_eq_getElem (b.index_lt attempt)

theorem getElem?_delay (attempt : UInt32) :
    b.waits[min (max attempt.toNat 1) b.length - 1]? = some (b.delay attempt) := by
  have hplace : min (max attempt.toNat 1) b.length - 1 =
      min (attempt.toNat - 1) (b.length - 1) := by omega
  rw [hplace]
  exact List.getElem?_eq_getElem (b.index_lt attempt)

/-- From the attempt with the number of the last entry on, all wait as long as that entry says. -/
theorem delay_of_length_le {attempt : UInt32} (h : b.length ≤ attempt.toNat) :
    b.delay attempt = b.waits.getLast b.waits_ne_nil := by
  have hplace : min (max attempt.toNat 1) b.length - 1 = b.waits.length - 1 := by
    have hpos := b.length_pos
    simp only [length] at *
    omega
  apply Option.some.inj
  rw [← b.getElem?_delay, hplace, ← List.getLast?_eq_getElem?,
    List.getLast?_eq_some_getLast b.waits_ne_nil]

/-- The last entry is within reach of the greatest number, unless the table is too long. -/
theorem lastWait_eq (h : b.length < UInt32.size) :
    b.lastWait = b.waits.getLast b.waits_ne_nil :=
  b.delay_of_length_le (Nat.le_sub_one_of_lt h)

end Reattempt.Backoff
