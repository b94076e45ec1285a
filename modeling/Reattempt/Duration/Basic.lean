/-!
# Durations

Spans of time in whole nanoseconds, up to the longest span that 64 bits of seconds can hold.
Saturating operations stop at that bound, checked ones report that it was passed.
-/

namespace Reattempt

def nanosPerSec : Nat := 1000000000

def nanosPerMilli : Nat := 1000000

/-- The number of nanoseconds in the longest duration: one less than 2^64 seconds hold. -/
def Duration.maxNanos : Nat := UInt64.size * nanosPerSec - 1

/-- A span of time of less than 2^64 seconds, in whole nanoseconds. -/
structure Duration where
  nanos : Nat
  nanos_le : nanos ≤ Duration.maxNanos
  deriving DecidableEq

namespace Duration

@[ext]
theorem ext {a b : Duration} (h : a.nanos = b.nanos) : a = b := by
  cases a; cases b; simp_all

def longest : Duration := ⟨maxNanos, Nat.le_refl _⟩

def zero : Duration := ⟨0, Nat.zero_le _⟩

instance : Inhabited Duration := ⟨zero⟩

/-- `n` nanoseconds, unless that is more than a duration can hold. -/
def ofNanos? (n : Nat) : Option Duration :=
  if h : n ≤ maxNanos then some ⟨n, h⟩ else none

/-- `n` nanoseconds, or the longest duration where that is too many. -/
def clamp (n : Nat) : Duration := ⟨min n maxNanos, Nat.min_le_right n maxNanos⟩

/-- A number of units that a word holds is less than a duration can hold, if the units are no
longer than a second. -/
theorem word_mul_le (w : UInt64) {unit : Nat} (h : unit ≤ nanosPerSec) :
    w.toNat * unit ≤ maxNanos := by
  have hw : w.toNat ≤ UInt64.size - 1 := Nat.le_sub_one_of_lt w.toNat_lt
  calc w.toNat * unit ≤ (UInt64.size - 1) * nanosPerSec := Nat.mul_le_mul hw h
    _ ≤ maxNanos := by decide

def ofSecs (s : UInt64) : Duration := ⟨s.toNat * nanosPerSec, word_mul_le s (Nat.le_refl _)⟩

def ofMillis (m : UInt64) : Duration := ⟨m.toNat * nanosPerMilli, word_mul_le m (by decide)⟩

def secs (d : Duration) : Nat := d.nanos / nanosPerSec

/-- The nanoseconds left over beside the whole seconds. -/
def subsecNanos (d : Duration) : Nat := d.nanos % nanosPerSec

/-- The whole milliseconds of a duration, rounded down. -/
def wholeMillis (d : Duration) : Nat := d.nanos / nanosPerMilli

/-- The whole milliseconds of a duration as a word, the largest word where there are more. -/
def millisWord (d : Duration) : UInt64 :=
  if d.wholeMillis < UInt64.size then UInt64.ofNat d.wholeMillis else UInt64.ofNat (UInt64.size - 1)

/-- The sum of two durations, the longest duration where they exceed it. -/
def add (a b : Duration) : Duration := clamp (a.nanos + b.nanos)

/-- A duration taken `k` times, the longest duration where that exceeds it. -/
def scale (d : Duration) (k : UInt32) : Duration := clamp (d.nanos * k.toNat)

/-- A duration, or the limit where it is longer than that. -/
def atMost (d limit : Duration) : Duration := if d.nanos ≤ limit.nanos then d else limit

/-- The sum of two durations, if a duration can hold it. -/
def add? (a b : Duration) : Option Duration := ofNanos? (a.nanos + b.nanos)

/-- The sum of a list of durations, added from the left, if a duration can hold it. -/
def sum? (ds : List Duration) : Option Duration := ds.foldlM add? zero

/-- What a sum that no duration can hold is reported as. -/
def overflowText : String := "overflow in iter::sum over durations"

/-- A duration in seconds as a floating-point number: whole seconds and fraction are converted
separately and then added. -/
def toSeconds (d : Duration) : Float :=
  (UInt64.ofNat d.secs).toFloat + (UInt64.ofNat d.subsecNanos).toFloat / 1000000000.0

/-! ## Values in nanoseconds -/

@[simp] theorem nanos_zero : zero.nanos = 0 := rfl

@[simp] theorem nanos_longest : longest.nanos = maxNanos := rfl

@[simp] theorem nanos_clamp (n : Nat) : (clamp n).nanos = min n maxNanos := rfl

@[simp] theorem nanos_ofSecs (s : UInt64) : (ofSecs s).nanos = s.toNat * nanosPerSec := rfl

@[simp] theorem nanos_ofMillis (m : UInt64) : (ofMillis m).nanos = m.toNat * nanosPerMilli := rfl

@[simp] theorem nanos_add (a b : Duration) : (a.add b).nanos = min (a.nanos + b.nanos) maxNanos :=
  rfl

@[simp] theorem nanos_scale (d : Duration) (k : UInt32) :
    (d.scale k).nanos = min (d.nanos * k.toNat) maxNanos := rfl

@[simp] theorem nanos_atMost (d limit : Duration) :
    (d.atMost limit).nanos = min d.nanos limit.nanos := by
  unfold atMost
  split <;> omega

theorem ofNanos?_eq_some_iff {n : Nat} {d : Duration} : ofNanos? n = some d ↔ d.nanos = n := by
  unfold ofNanos?
  constructor
  · intro h
    split at h
    · cases h; rfl
    · cases h
  · rintro rfl
    exact dif_pos d.nanos_le

theorem ofNanos?_eq_none_iff {n : Nat} : ofNanos? n = none ↔ maxNanos < n := by
  unfold ofNanos?
  split
  · next h => simpa using h
  · next h => simpa using h

end Duration

end Reattempt
