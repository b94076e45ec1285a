import Reattempt.Proofs.Backoff.Fibonacci
import Reattempt.Proofs.Backoff.Written

/-! # Where tables come from

However a table is made, it has the entries that were asked for, and there is none only if no entry
was. So no lookup in a table fails. -/

namespace Reattempt.Backoff

theorem ofList_eq_error_iff {waits : List Duration} {e : ConfigError} :
    ofList waits = .error e ↔ waits = [] ∧ e = .noWaits := by
  unfold ofList
  split
  · next h => simp [h, eq_comm]
  · next h => simp [h]

/-- A way to come by a table. -/
inductive Source where
  | standard
  | list (waits : List Duration)
  | secs (ns : List UInt64)
  | millis (ns : List UInt64)
  | fibonacci (unit : Duration) (steps : Nat)
  | reading (text : String) (ns : List UInt64) (h : numbersOf? text = some ns)
  | copy (source : Source)

namespace Source

/-- The table that is made, or why there is none. -/
def table : Source → Except ReadError Backoff
  | standard => .ok .standard
  | list waits => (ofList waits).mapError .refused
  | secs ns => (ofSecs ns).mapError .refused
  | millis ns => (ofMillis ns).mapError .refused
  | fibonacci unit steps => .ok (.fibonacci unit steps)
  | reading text _ _ => read text
  | copy source => source.table

/-- The waits that a table is asked to have. -/
def entries : Source → List Duration
  | standard => [1, 1, 2, 3, 5, 8, 13].map .ofSecs
  | list waits => waits
  | secs ns => ns.map .ofSecs
  | millis ns => ns.map .ofMillis
  | fibonacci unit steps => (List.range (max 1 (min steps (2 ^ 32 - 1)))).map fun i =>
      .clamp (unit.nanos * min (Nat.fib (i + 1)) (2 ^ 32 - 1))
  | reading _ ns _ => ns.map .ofMillis
  | copy source => source.entries

/-- A list is given, and there is nothing in it. -/
def Empty : Source → Prop
  | standard => False
  | list waits => waits = []
  | secs ns => ns = []
  | millis ns => ns = []
  | fibonacci _ _ => False
  | reading _ ns _ => ns = []
  | copy source => source.Empty

theorem entries_eq_nil_iff (source : Source) : source.entries = [] ↔ source.Empty := by
  induction source with
  | standard => simp [entries, Empty]
  | list waits => exact Iff.rfl
  | secs ns => exact List.map_eq_nil_iff
  | millis ns => exact List.map_eq_nil_iff
  | fibonacci unit steps => simp [entries, Empty]
  | reading text ns h => exact List.map_eq_nil_iff
  | copy source ih => exact ih

/-- All ways to make a table come down to a list of its waits. -/
theorem table_eq (source : Source) : source.table = (ofList source.entries).mapError .refused := by
  induction source with
  | standard => rfl
  | list waits => rfl
  | secs ns => rfl
  | millis ns => rfl
  | fibonacci unit steps =>
      have hwaits : (Backoff.fibonacci unit steps).waits = (fibonacci unit steps).entries := by
        rw [waits_fibonacci, fibonacciSteps_eq]
        refine List.map_congr_left fun i _ => Duration.ext ?_
        rw [Duration.nanos_scale, Duration.nanos_clamp, toNat_word]
        rfl
      rw [table, ofList_eq_ok_iff.mpr hwaits]
      rfl
  | reading text ns h => exact read_of_numbersOf? h
  | copy source ih => exact ih

end Source

/-- A table is refused exactly if it is to be made from an empty list, in which every lookup would
fail. Otherwise it has all entries that were asked for, in order. So it is not empty, and every
lookup in it succeeds, with the entry whose place is the attempt, moved into the table. From the
last entry on, unless there are more of them than a word counts, all attempts wait as long as it
says. -/
theorem lookups_succeed (source : Source) :
    (source.Empty → source.table = .error (.refused .noWaits) ∧
        ∀ attempt, lookup? source.entries attempt = none) ∧
      (¬ source.Empty → ∃ b, source.table = .ok b ∧ b.waits = source.entries ∧ b.waits ≠ [] ∧
        (∀ attempt, lookup? b.waits attempt = some (b.delay attempt) ∧
          b.waits[min (max attempt.toNat 1) b.length - 1]? = some (b.delay attempt)) ∧
        (b.length < 2 ^ 32 → b.waits.getLast? = some b.lastWait ∧
          ∀ attempt : UInt32, b.length ≤ attempt.toNat → b.delay attempt = b.lastWait)) := by
  constructor
  · intro h
    have hnil := source.entries_eq_nil_iff.mpr h
    refine ⟨?_, fun attempt => lookup?_eq_none_iff.mpr hnil⟩
    rw [source.table_eq, ofList_eq_error_iff.mpr ⟨hnil, rfl⟩]
    rfl
  · intro h
    have hne : source.entries ≠ [] := fun hnil => h (source.entries_eq_nil_iff.mp hnil)
    let b : Backoff := ⟨source.entries, hne⟩
    have hok : ofList source.entries = .ok b := ofList_eq_ok_iff.mpr rfl
    refine ⟨b, ?_, rfl, hne, ?_, ?_⟩
    · rw [source.table_eq, hok]
      rfl
    · intro attempt
      exact ⟨b.lookup?_waits attempt, b.getElem?_delay attempt⟩
    · intro hlength
      have hlast := b.lastWait_eq hlength
      refine ⟨?_, fun attempt hattempt => ?_⟩
      · rw [hlast, List.getLast?_eq_some_getLast b.waits_ne_nil]
      · rw [hlast, b.delay_of_length_le hattempt]

/-- The last entry of this table is neither its least nor its greatest one. -/
theorem lookups_succeed_uneven :
    (Source.copy (.secs [])).table = .error (.refused .noWaits) ∧
      ∃ b, (Source.copy (.reading "[5, 50, 20]" [5, 50, 20] (by decide))).table = .ok b ∧
        b.delay 0 = .ofMillis 5 ∧ b.delay 2 = .ofMillis 50 ∧ b.lastWait = .ofMillis 20 ∧
        b.delay 100 = .ofMillis 20 := by
  obtain ⟨hempty, -⟩ := (lookups_succeed (.copy (.secs []))).1 rfl
  obtain ⟨-, hmade⟩ := lookups_succeed (.copy (.reading "[5, 50, 20]" [5, 50, 20] (by decide)))
  obtain ⟨b, htable, hwaits, -, hlookup, hlast⟩ := hmade (List.cons_ne_nil _ _)
  have hlength : b.length = 3 := congrArg List.length hwaits
  rw [hwaits, hlength] at hlookup
  obtain ⟨hend, hpast⟩ := hlast (by omega)
  rw [hwaits] at hend
  have hwait : b.lastWait = .ofMillis 20 := (Option.some.inj hend).symm
  refine ⟨hempty, b, htable, ?_, ?_, hwait, ?_⟩
  · exact (Option.some.inj (hlookup 0).2).symm
  · exact (Option.some.inj (hlookup 2).2).symm
  · rw [hpast 100 (by rw [hlength]; decide), hwait]

end Reattempt.Backoff
