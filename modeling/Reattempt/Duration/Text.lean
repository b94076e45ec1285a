import Reattempt.Duration.Basic

/-!
# The short form of a duration

A duration is shown in its largest unit with a nonzero whole part, followed by the fraction
without trailing zeros: `1s`, `1.5s`, `250ms`, `12.3µs`, `0ns`.
-/

namespace Reattempt.Duration

/-- The digits of the fraction `part` of a unit with `width` decimal places, trailing zeros left
out. -/
def fractionDigits (width part : Nat) : List Char :=
  let digits := Nat.toDigits 10 part
  let padded := List.replicate (width - digits.length) '0' ++ digits
  (padded.reverse.dropWhile (· == '0')).reverse

/-- A whole number followed, where it is not zero, by a fraction of `width` decimal places. -/
def decimalText (whole width part : Nat) : String :=
  match fractionDigits width part with
  | [] => Nat.repr whole
  | digits => Nat.repr whole ++ "." ++ String.ofList digits

def text (d : Duration) : String :=
  if nanosPerSec ≤ d.nanos then
    decimalText (d.nanos / nanosPerSec) 9 (d.nanos % nanosPerSec) ++ "s"
  else if nanosPerMilli ≤ d.nanos then
    decimalText (d.nanos / nanosPerMilli) 6 (d.nanos % nanosPerMilli) ++ "ms"
  else if 1000 ≤ d.nanos then
    decimalText (d.nanos / 1000) 3 (d.nanos % 1000) ++ "µs"
  else
    Nat.repr d.nanos ++ "ns"

end Reattempt.Duration
