import Mathlib.Data.List.DropRight
import Mathlib.Data.Nat.Digits.Defs
import Reattempt.Duration.Text

/-! # What the short form of a duration shows

The short form shows the duration itself and nothing near it: the whole part, the digits of the
fraction and the unit make up the very number of its nanoseconds. -/

namespace Reattempt.Duration

/-- The units of the short form. -/
inductive TextUnit where
  | seconds
  | millis
  | micros
  | nanos

namespace TextUnit

def name : TextUnit → String
  | seconds => "s"
  | millis => "ms"
  | micros => "µs"
  | nanos => "ns"

/-- The decimal places that a nanosecond takes in a unit. -/
def places : TextUnit → Nat
  | seconds => 9
  | millis => 6
  | micros => 3
  | nanos => 0

/-- The nanoseconds in a unit. -/
def size : TextUnit → Nat
  | seconds => nanosPerSec
  | millis => nanosPerMilli
  | micros => 1000
  | nanos => 1

theorem size_eq (unit : TextUnit) : unit.size = 10 ^ unit.places := by
  cases unit <;> norm_num [size, places, nanosPerSec, nanosPerMilli]

/-- A duration reaches the unit, unless there is no smaller one, and it reaches no larger one. -/
structure Fits (unit : TextUnit) (d : Duration) : Prop where
  reached : unit = nanos ∨ unit.size ≤ d.nanos
  largest : unit = seconds ∨ d.nanos < unit.size * 1000

end TextUnit

/-- The texts that show a duration: in the unit that fits, a whole number, or a whole number and
behind a point the digits of a fraction, which do not end with a zero. -/
inductive Shown (d : Duration) : String → Prop where
  | whole {unit : TextUnit} {n : Nat} (hu : unit.Fits d) (h : d.nanos = n * unit.size) :
      Shown d (Nat.repr n ++ unit.name)
  | fraction {unit : TextUnit} {n zeros : Nat} {digits : List Char} (hu : unit.Fits d)
      (hdigits : ∀ c ∈ digits, c.isDigit) (hne : digits ≠ []) (hlast : digits.getLast hne ≠ '0')
      (hlength : digits.length + zeros = unit.places)
      (h : d.nanos = n * unit.size + Nat.ofDigitChars 10 digits 0 * 10 ^ zeros) :
      Shown d (Nat.repr n ++ "." ++ String.ofList digits ++ unit.name)

/-- What is left out at the end of a fraction are zeros. -/
theorem exists_zeros (digits : List Char) :
    ∃ zeros, digits.rdropWhile (· == '0') ++ List.replicate zeros '0' = digits := by
  have hdropped : digits.rtakeWhile (· == '0') =
      List.replicate (digits.rtakeWhile (· == '0')).length '0' :=
    List.eq_replicate_of_mem fun c hc => by simpa using List.mem_rtakeWhile_imp hc
  refine ⟨(digits.rtakeWhile (· == '0')).length, ?_⟩
  rw [← hdropped]
  exact List.rdropWhile_append_rtakeWhile

/-- The digits of a fraction of some width, and the zeros that are left out behind them. -/
theorem fractionDigits_spec {width part : Nat} (hw : 0 < width) (hp : part < 10 ^ width) :
    (∀ c ∈ fractionDigits width part, c.isDigit) ∧
      (∀ hne : fractionDigits width part ≠ [], (fractionDigits width part).getLast hne ≠ '0') ∧
      ∃ zeros, (fractionDigits width part).length + zeros = width ∧
        Nat.ofDigitChars 10 (fractionDigits width part) 0 * 10 ^ zeros = part := by
  have hlength := Nat.toDigits_length 10 part width hw hp
  obtain ⟨padded, hpadded⟩ : ∃ padded, padded =
    List.replicate (width - (Nat.toDigits 10 part).length) '0' ++ Nat.toDigits 10 part := ⟨_, rfl⟩
  have hdigits : fractionDigits width part = padded.rdropWhile (· == '0') := by
    rw [hpadded]
    rfl
  obtain ⟨zeros, hzeros⟩ := exists_zeros padded
  rw [← hdigits] at hzeros
  refine ⟨?_, ?_, zeros, ?_, ?_⟩
  · intro c hc
    have hmem : c ∈ padded := hzeros ▸ List.mem_append_left _ hc
    rw [hpadded, List.mem_append] at hmem
    obtain hzero | hdigit := hmem
    · rw [List.eq_of_mem_replicate hzero]
      rfl
    · exact Nat.isDigit_of_mem_toDigits (by decide) (by decide) hdigit
  · simp only [hdigits]
    intro hne
    simpa using List.rdropWhile_last_not (· == '0') padded hne
  · have hwidth := congrArg List.length hzeros
    rw [hpadded, List.length_append, List.length_append, List.length_replicate,
      List.length_replicate] at hwidth
    omega
  · have hvalue := congrArg (Nat.ofDigitChars 10 · 0) hzeros
    simp only [hpadded, Nat.ofDigitChars_append, Nat.ofDigitChars_replicate_zero, Nat.mul_zero,
      Nat.ofDigitChars_ten_toDigits] at hvalue
    rw [Nat.mul_comm, hvalue]

theorem shown_decimalText {d : Duration} {unit : TextUnit} (hu : unit.Fits d)
    (hplaces : 0 < unit.places) :
    d.Shown (decimalText (d.nanos / unit.size) unit.places (d.nanos % unit.size) ++ unit.name) := by
  have hpart : d.nanos % unit.size < 10 ^ unit.places := by
    rw [unit.size_eq]
    exact Nat.mod_lt _ (Nat.pow_pos (by decide))
  obtain ⟨hdigits, hlast, zeros, hlength, hvalue⟩ := fractionDigits_spec hplaces hpart
  have hsplit := Nat.div_add_mod' d.nanos unit.size
  unfold decimalText
  split
  · next hnil =>
      rw [hnil, Nat.ofDigitChars_nil, Nat.zero_mul] at hvalue
      rw [← hvalue, Nat.add_zero] at hsplit
      exact .whole hu hsplit.symm
  · next hne =>
      rw [← hvalue] at hsplit
      exact .fraction hu hdigits hne (hlast hne) hlength hsplit.symm

/-- The short form of a duration shows it. -/
theorem shown_text (d : Duration) : d.Shown d.text := by
  unfold text
  -- the unit is read off what fits, since the numbers in the text do not tell it
  split_ifs with hsecs hmillis hmicros
  · have hfits : TextUnit.seconds.Fits d := ⟨.inr hsecs, .inl rfl⟩
    exact (shown_decimalText hfits (by decide) :)
  · have hfits : TextUnit.millis.Fits d := ⟨.inr hmillis, .inr (Nat.lt_of_not_le hsecs)⟩
    exact (shown_decimalText hfits (by decide) :)
  · have hfits : TextUnit.micros.Fits d := ⟨.inr hmicros, .inr (Nat.lt_of_not_le hmillis)⟩
    exact (shown_decimalText hfits (by decide) :)
  · have hfits : TextUnit.nanos.Fits d := ⟨.inl rfl, .inr (Nat.lt_of_not_le hmicros)⟩
    exact .whole hfits (Nat.mul_one _).symm

end Reattempt.Duration
