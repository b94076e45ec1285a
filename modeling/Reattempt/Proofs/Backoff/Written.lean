import Mathlib.Data.List.Forall2
import Mathlib.Data.List.Basic
import Reattempt.Backoff.Written
import Reattempt.Proofs.Backoff.Lookup

/-! # Writing and reading tables

What a table is written as can be read again, and the table that comes back has each wait rounded
down to whole milliseconds, as far as a word counts them. -/

namespace Reattempt

/-! ## Whole milliseconds -/

namespace Duration

theorem toNat_millisWord (d : Duration) :
    d.millisWord.toNat = min (d.nanos / nanosPerMilli) (UInt64.size - 1) := by
  unfold millisWord wholeMillis
  split
  · next h =>
      rw [UInt64.toNat_ofNat_of_lt' h]
      omega
  · next h =>
      rw [UInt64.toNat_ofNat_of_lt' (by decide)]
      omega

theorem millisWord_ofMillis (m : UInt64) : (ofMillis m).millisWord = m := by
  apply UInt64.toNat_inj.mp
  rw [toNat_millisWord, nanos_ofMillis, Nat.mul_div_cancel _ (by decide)]
  exact Nat.min_eq_left (Nat.le_sub_one_of_lt m.toNat_lt)

/-- What is left of a duration once it has been written down. -/
def inMillis (d : Duration) : Duration := ofMillis d.millisWord

theorem nanos_inMillis (d : Duration) :
    d.inMillis.nanos = min (d.nanos / nanosPerMilli) (UInt64.size - 1) * nanosPerMilli := by
  rw [inMillis, nanos_ofMillis, toNat_millisWord]

theorem inMillis_le (d : Duration) : d.inMillis.nanos ≤ d.nanos := by
  rw [nanos_inMillis]
  calc min (d.nanos / nanosPerMilli) (UInt64.size - 1) * nanosPerMilli
      ≤ d.nanos / nanosPerMilli * nanosPerMilli := Nat.mul_le_mul_right _ (Nat.min_le_left _ _)
    _ ≤ d.nanos := Nat.div_mul_le_self _ _

theorem inMillis_inMillis (d : Duration) : d.inMillis.inMillis = d.inMillis :=
  congrArg ofMillis (millisWord_ofMillis d.millisWord)

theorem inMillis_eq_iff {d : Duration} : d.inMillis = d ↔
    nanosPerMilli ∣ d.nanos ∧ d.nanos / nanosPerMilli ≤ UInt64.size - 1 := by
  have hpos : 0 < nanosPerMilli := by decide
  constructor
  · intro h
    rw [← h, nanos_inMillis, Nat.mul_div_cancel _ hpos]
    exact ⟨Nat.dvd_mul_left _ _, Nat.min_le_right _ _⟩
  · rintro ⟨hdvd, hle⟩
    apply ext
    rw [nanos_inMillis, Nat.min_eq_left hle, Nat.div_mul_cancel hdvd]

end Duration

namespace Backoff

/-! ## Digits -/

theorem decimalValue_toDigits (n : Nat) : decimalValue (Nat.toDigits 10 n) = n := by
  have hfold := Nat.ofDigitChars_toDigits (b := 10) (n := n) (by decide) (by decide)
  simpa only [decimalValue, Nat.ofDigitChars, Nat.mul_comm] using hfold

/-- Only the number zero is written with a leading zero, and with nothing behind it. -/
theorem toDigits_eq_zero_cons {n : Nat} {rest : List Char} (h : Nat.toDigits 10 n = '0' :: rest) :
    rest = [] := by
  induction n using Nat.strongRecOn generalizing rest with
  | ind n ih =>
      by_cases hn : n < 10
      · rw [Nat.toDigits_of_lt_base hn] at h
        exact (List.cons.inj h).2.symm
      · rw [Nat.toDigits_of_base_le (by decide) (Nat.le_of_not_lt hn)] at h
        cases hfront : Nat.toDigits 10 (n / 10) with
        | nil => exact (Nat.toDigits_ne_nil hfront).elim
        | cons c front =>
            rw [hfront, List.cons_append] at h
            obtain ⟨rfl, -⟩ := List.cons.inj h
            -- then the digits in front are those of zero, and the number has only one digit
            have hzero := ih (n / 10) (by omega) hfront
            have hvalue := decimalValue_toDigits (n / 10)
            rw [hfront, hzero] at hvalue
            have : n / 10 = 0 := hvalue.symm
            omega

theorem wordOfDigits?_toDigits (w : UInt64) :
    wordOfDigits? (Nat.toDigits 10 w.toNat) = some w := by
  unfold wordOfDigits?
  split
  · next h => exact (Nat.toDigits_ne_nil h).elim
  · next h => cases toDigits_eq_zero_cons h
  · rw [decimalValue_toDigits, if_pos w.toNat_lt, UInt64.ofNat_toNat]

/-! ## Parts of a text -/

namespace Token

theorem scanFrom_digits {digits : List Char} (h : ∀ c ∈ digits, c.isDigit)
    (before rest : List Char) :
    scanFrom before (digits ++ rest) = scanFrom (before ++ digits) rest := by
  induction digits generalizing before with
  | nil => simp
  | cons c digits ih =>
      have hc : c.isDigit := h c List.mem_cons_self
      have hdigits : ∀ c ∈ digits, c.isDigit := fun c hc => h c (List.mem_cons_of_mem _ hc)
      rw [List.cons_append, scanFrom, if_pos hc, ih hdigits, List.append_assoc,
        List.singleton_append]

/-- A number ends where a character follows that is neither a digit nor a blank. -/
theorem scanFrom_number (n : Nat) {c : Char} (hdigit : ¬ c.isDigit) (hblank : ¬ isBlank c)
    (rest : List Char) :
    scanFrom [] (Nat.toDigits 10 n ++ c :: rest) =
      .number (Nat.toDigits 10 n) :: ofChar c :: scan rest := by
  have hdigits : ∀ c ∈ Nat.toDigits 10 n, c.isDigit := fun c hc =>
    Nat.isDigit_of_mem_toDigits (by decide) (by decide) hc
  have hne : (Nat.toDigits 10 n).isEmpty = false := by simp [Nat.toDigits_ne_nil]
  rw [scanFrom_digits hdigits, List.nil_append, scanFrom, if_neg hdigit, if_neg hblank, flush, hne]
  rfl

/-- The parts of a written list behind its opening bracket. -/
def ofNumbers : List UInt64 → List Token
  | [] => [.closing]
  | [n] => [.number (Nat.toDigits 10 n.toNat), .closing]
  | n :: m :: ns => .number (Nat.toDigits 10 n.toNat) :: .comma :: ofNumbers (m :: ns)

theorem scan_numbers (ns : List UInt64) :
    scan ([','].intercalate (ns.map fun n => Nat.toDigits 10 n.toNat) ++ [']']) = ofNumbers ns := by
  induction ns with
  | nil => rfl
  | cons n ns ih =>
      cases ns with
      | nil =>
          rw [List.map_singleton, List.intercalate_singleton]
          exact scanFrom_number n.toNat (by decide) (by decide) []
      | cons m ns =>
          rw [List.map_cons] at ih
          rw [List.map_cons, List.map_cons, List.intercalate_cons_cons, List.append_assoc,
            List.append_assoc, List.singleton_append, scan,
            scanFrom_number n.toNat (by decide) (by decide), ih]
          rfl

theorem scan_writeNumbers (ns : List UInt64) :
    scan (writeNumbers ns).toList = .opening :: ofNumbers ns := by
  have htext : (writeNumbers ns).toList =
      '[' :: ([','].intercalate (ns.map fun n => Nat.toDigits 10 n.toNat) ++ [']']) := by
    simp [writeNumbers, String.toList_intercalate, Function.comp_def]
  rw [htext, scan, scanFrom, if_neg (by decide), if_neg (by decide)]
  exact congrArg (Token.opening :: ·) (scan_numbers ns)

theorem numbersOfTokens?_ofNumbers (n : UInt64) (ns : List UInt64) :
    numbersOfTokens? (ofNumbers (n :: ns)) = some (n :: ns, []) := by
  induction ns generalizing n with
  | nil => simp [ofNumbers, numbersOfTokens?, wordOfDigits?_toDigits]
  | cons m ns ih => simp [ofNumbers, numbersOfTokens?, wordOfDigits?_toDigits, ih]

theorem listOfTokens?_ofNumbers (ns : List UInt64) :
    listOfTokens? (.opening :: ofNumbers ns) = some (ns, []) := by
  cases ns with
  | nil => rfl
  | cons n ns =>
      -- what stands behind the bracket is a number, and so not the end of the list
      cases ns with
      | nil => exact numbersOfTokens?_ofNumbers n []
      | cons m ns => exact numbersOfTokens?_ofNumbers n (m :: ns)

end Token

/-! ## Reading -/

/-- The numbers of a text that is a list of numbers and nothing else. -/
def numbersOf? (text : String) : Option (List UInt64) :=
  match listOfTokens? (Token.scan text.toList) with
  | some (ns, []) => some ns
  | _ => none

/-- The written form of a list says this list. -/
theorem numbersOf?_writeNumbers (ns : List UInt64) : numbersOf? (writeNumbers ns) = some ns := by
  rw [numbersOf?, Token.scan_writeNumbers, Token.listOfTokens?_ofNumbers]

/-- To read a list of numbers is to make a table of so many milliseconds each. -/
theorem read_of_numbersOf? {text : String} {ns : List UInt64} (h : numbersOf? text = some ns) :
    read text = (ofMillis ns).mapError .refused := by
  unfold numbersOf? at h
  split at h
  · next millis htokens =>
      cases h
      rw [read, htokens]
      dsimp only
      cases ofMillis ns <;> rfl
  · cases h

/-- What is left of a table once it has been written down. -/
def inMillis (t : Backoff) : Backoff :=
  ⟨t.waits.map Duration.inMillis, fun h => t.waits_ne_nil (List.map_eq_nil_iff.mp h)⟩

@[simp]
theorem waits_inMillis (t : Backoff) : t.inMillis.waits = t.waits.map Duration.inMillis := rfl

theorem read_write (t : Backoff) : read t.write = .ok t.inMillis := by
  have hmillis : ofMillis t.toMillis = .ok t.inMillis := by
    rw [ofMillis, ofList_eq_ok_iff, toMillis, List.map_map]
    rfl
  rw [write, read_of_numbersOf? (numbersOf?_writeNumbers t.toMillis), hmillis]
  rfl

theorem toMillis_of_ofMillis {ns : List UInt64} {t : Backoff} (h : ofMillis ns = .ok t) :
    t.toMillis = ns := by
  rw [toMillis, ofList_eq_ok_iff.mp h, List.map_map]
  exact List.map_id'' Duration.millisWord_ofMillis ns

theorem inMillis_inMillis (t : Backoff) : t.inMillis.inMillis = t.inMillis := by
  apply ext_waits
  rw [waits_inMillis, waits_inMillis, List.map_map]
  exact List.map_congr_left fun d _ => d.inMillis_inMillis

theorem length_inMillis (t : Backoff) : t.inMillis.length = t.length := by
  simp [length]

theorem delay_inMillis (t : Backoff) (attempt : UInt32) :
    t.inMillis.delay attempt = (t.delay attempt).inMillis := by
  have hback := t.inMillis.getElem?_delay attempt
  rw [length_inMillis, waits_inMillis, List.getElem?_map, t.getElem?_delay attempt] at hback
  exact (Option.some.inj hback).symm

theorem inMillis_eq_iff {t : Backoff} : t.inMillis = t ↔ ∀ d ∈ t.waits,
    nanosPerMilli ∣ d.nanos ∧ d.nanos / nanosPerMilli ≤ UInt64.size - 1 := by
  calc t.inMillis = t
      ↔ t.waits.map Duration.inMillis = t.waits.map id := by
        rw [List.map_id]
        exact ⟨congrArg waits, fun h => ext_waits h⟩
    _ ↔ ∀ d ∈ t.waits, d.inMillis = d := List.map_inj_left
    _ ↔ _ := forall₂_congr fun d _ => Duration.inMillis_eq_iff

/-- A table made of milliseconds is written as these milliseconds. Every table can be written and
read again, and then each of its waits, and so each of its delays, has been rounded down to whole
milliseconds, as far as a word counts them. So nothing gets longer, a table comes back as it was
exactly if its waits are whole milliseconds that a word counts, and to write and read it once more
changes nothing. -/
theorem written_and_read :
    (∀ millis : List UInt64, millis ≠ [] → ∃ t, read (writeNumbers millis) = .ok t ∧
        t.toMillis = millis ∧ t.write = writeNumbers millis) ∧
      ∀ t : Backoff, ∃ back, read t.write = .ok back ∧ back.length = t.length ∧
        (back.waits.map Duration.nanos =
          t.waits.map fun d => min (d.nanos / nanosPerMilli) (2 ^ 64 - 1) * nanosPerMilli) ∧
        (back = t ↔ ∀ d ∈ t.waits,
          nanosPerMilli ∣ d.nanos ∧ d.nanos / nanosPerMilli ≤ 2 ^ 64 - 1) ∧
        List.Forall₂ (fun d' d => d'.nanos ≤ d.nanos) back.waits t.waits ∧
        read back.write = .ok back ∧
        ∀ attempt, (back.delay attempt).nanos =
          min ((t.delay attempt).nanos / nanosPerMilli) (2 ^ 64 - 1) * nanosPerMilli := by
  constructor
  · intro millis hne
    have hwaits : millis.map Duration.ofMillis ≠ [] := fun h => hne (List.map_eq_nil_iff.mp h)
    have hmillis : ofMillis millis = .ok ⟨_, hwaits⟩ := ofList_eq_ok_iff.mpr rfl
    refine ⟨⟨_, hwaits⟩, ?_, toMillis_of_ofMillis hmillis, ?_⟩
    · rw [read_of_numbersOf? (numbersOf?_writeNumbers millis), hmillis]
      rfl
    · rw [write, toMillis_of_ofMillis hmillis]
  · intro t
    refine ⟨t.inMillis, t.read_write, t.length_inMillis, ?_, inMillis_eq_iff, ?_, ?_, ?_⟩
    · rw [waits_inMillis, List.map_map]
      exact List.map_congr_left fun d _ => d.nanos_inMillis
    · rw [waits_inMillis, List.forall₂_map_left_iff, List.forall₂_same]
      exact fun d _ => d.inMillis_le
    · rw [read_write, inMillis_inMillis]
    · intro attempt
      rw [delay_inMillis, Duration.nanos_inMillis]
      rfl

/-- A millisecond and a half comes back as one millisecond, and the longest duration as the greatest
number of milliseconds that a word counts. -/
theorem written_and_read_uneven :
    (∃ t, read "[250,750]" = .ok t ∧ t.write = "[250,750]") ∧
      ∃ back, read (write ⟨[⟨1500000, by decide⟩, .longest], List.cons_ne_nil _ _⟩) = .ok back ∧
        back.waits.map Duration.nanos = [1000000, 18446744073709551615000000] ∧
        read back.write = .ok back := by
  obtain ⟨hnumbers, htables⟩ := written_and_read
  have htext : writeNumbers [250, 750] = "[250,750]" := by decide
  obtain ⟨t, hread, -, hwrite⟩ := hnumbers [250, 750] (List.cons_ne_nil _ _)
  obtain ⟨back, hback, -, hnanos, -, -, hagain, -⟩ :=
    htables ⟨[⟨1500000, by decide⟩, .longest], List.cons_ne_nil _ _⟩
  rw [htext] at hread hwrite
  refine ⟨⟨t, hread, hwrite⟩, back, hback, ?_, hagain⟩
  rw [hnanos]
  decide

end Backoff

end Reattempt
