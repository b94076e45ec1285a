import Reattempt.Duration.Basic
import Reattempt.Config.Error

/-!
# Backoff tables

The waits between attempts. A table is never empty; an attempt past its end waits as long as the
last entry says, so the wait stops growing.
-/

namespace Reattempt

/-- A nonempty list of waits, indexed by the attempt that has just failed. -/
structure Backoff where
  waits : List Duration
  waits_ne_nil : waits ≠ []
  deriving DecidableEq

namespace Backoff

/-- A table of the given waits. Only the empty list is refused. -/
def ofList (waits : List Duration) : Except ConfigError Backoff :=
  if h : waits = [] then .error .noWaits else .ok ⟨waits, h⟩

def ofSecs (secs : List UInt64) : Except ConfigError Backoff := ofList (secs.map Duration.ofSecs)

def ofMillis (millis : List UInt64) : Except ConfigError Backoff :=
  ofList (millis.map Duration.ofMillis)

/-- The table used where none is chosen: 1, 1, 2, 3, 5, 8 and 13 seconds. -/
def standard : Backoff := ⟨[1, 1, 2, 3, 5, 8, 13].map Duration.ofSecs, by simp⟩

def length (b : Backoff) : Nat := b.waits.length

theorem length_pos (b : Backoff) : 0 < b.length := List.length_pos_iff.mpr b.waits_ne_nil

/-- Every attempt, moved into the table, is the index of an entry. -/
theorem index_lt (b : Backoff) (attempt : UInt32) :
    min (attempt.toNat - 1) (b.length - 1) < b.waits.length := by
  have h := b.length_pos
  simp only [length] at *
  omega

/-- The wait after the given attempt, counted from one, has failed. Attempt zero gets the first
entry, and every attempt past the end the last one. -/
def delay (b : Backoff) (attempt : UInt32) : Duration :=
  have : min (attempt.toNat - 1) (b.length - 1) < b.waits.length := b.index_lt attempt
  b.waits[min (attempt.toNat - 1) (b.length - 1)]

/-- The wait of every attempt past the end of the table. -/
def lastWait (b : Backoff) : Duration := b.delay (UInt32.ofNat (UInt32.size - 1))

/-- The time spent waiting if the first `failures` attempts all fail recoverably: the listed waits
added exactly, and the last one once for each further failure, clamped. There is no total if the
listed waits alone exceed a duration. -/
def total? (b : Backoff) (failures : UInt32) : Option Duration :=
  let covered := min failures.toNat b.length
  let beyond := UInt32.ofNat (failures.toNat - covered)
  (Duration.sum? (b.waits.take covered)).map fun listed => listed.add (b.lastWait.scale beyond)

/-- Two tables are equal when their waits are. -/
theorem ext_waits {a b : Backoff} (h : a.waits = b.waits) : a = b := by
  cases a; cases b; simp_all

@[simp] theorem ofList_nil : ofList [] = .error .noWaits := rfl

theorem ofList_eq_ok_iff {waits : List Duration} {b : Backoff} :
    ofList waits = .ok b ↔ b.waits = waits := by
  unfold ofList
  constructor
  · intro h
    split at h
    · cases h
    · cases h; rfl
  · rintro rfl
    simp [b.waits_ne_nil]

end Backoff

end Reattempt
