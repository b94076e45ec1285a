import Reattempt.Backoff.Basic

/-!
# The written form of a backoff table

A table is written as the list of its waits in whole milliseconds, `[500,1000,2000]`. Reading
accepts blanks between the parts, and only numbers that fit 64 bits, written without sign,
fraction, exponent or leading zero.
-/

namespace Reattempt.Backoff

/-! ## Words -/

/-- The parts that a written list is made of. -/
inductive Token where
  | opening
  | closing
  | comma
  | number (digits : List Char)
  | stray (c : Char)
  deriving DecidableEq

def isBlank (c : Char) : Bool := c == ' ' || c == '\n' || c == '\t' || c == '\r'

/-- The part that a character other than a digit or a blank stands for. -/
def Token.ofChar (c : Char) : Token :=
  match c with
  | '[' => .opening
  | ']' => .closing
  | ',' => .comma
  | c => .stray c

/-- Digits read so far, put before the parts that follow them. -/
def Token.flush (digits : List Char) (rest : List Token) : List Token :=
  if digits.isEmpty then rest else .number digits :: rest

/-- The parts of a text, when the digits just before it are the given ones. -/
def Token.scanFrom (digits : List Char) : List Char → List Token
  | [] => flush digits []
  | c :: cs =>
    if c.isDigit then scanFrom (digits ++ [c]) cs
    else if isBlank c then flush digits (scanFrom [] cs)
    else flush digits (ofChar c :: scanFrom [] cs)

def Token.scan (text : List Char) : List Token := scanFrom [] text

/-! ## Numbers and lists -/

/-- The number that decimal digits stand for. -/
def decimalValue (digits : List Char) : Nat :=
  digits.foldl (fun n c => n * 10 + (c.toNat - '0'.toNat)) 0

/-- The 64-bit number written with the given digits: no leading zero, and not too large. -/
def wordOfDigits? (digits : List Char) : Option UInt64 :=
  match digits with
  | [] => none
  | '0' :: _ :: _ => none
  | digits =>
    let n := decimalValue digits
    if n < UInt64.size then some (UInt64.ofNat n) else none

/-- The numbers of a list whose opening bracket has been read, and the parts behind it. -/
def numbersOfTokens? : List Token → Option (List UInt64 × List Token)
  | .number digits :: .comma :: rest => do
    let n ← wordOfDigits? digits
    let (ns, rest) ← numbersOfTokens? rest
    return (n :: ns, rest)
  | .number digits :: .closing :: rest => do
    let n ← wordOfDigits? digits
    return ([n], rest)
  | _ => none

/-- The list of numbers at the start of a text, and the parts behind it. -/
def listOfTokens? : List Token → Option (List UInt64 × List Token)
  | .opening :: .closing :: rest => some ([], rest)
  | .opening :: rest => numbersOfTokens? rest
  | _ => none

/-! ## Tables -/

/-- Why a text is no written table. -/
inductive ReadError where
  /-- The text is not a list of 64-bit numbers. -/
  | malformed
  | refused (cause : ConfigError)
  deriving DecidableEq

/-- Reads a table. The list is made into a table before the end of the text is looked at, so an
empty list is refused as such whatever follows it. -/
def read (text : String) : Except ReadError Backoff :=
  match listOfTokens? (Token.scan text.toList) with
  | none => .error .malformed
  | some (millis, rest) =>
    match ofMillis millis with
    | .error e => .error (.refused e)
    | .ok table => if rest.isEmpty then .ok table else .error .malformed

/-- The waits of a table in whole milliseconds. -/
def toMillis (b : Backoff) : List UInt64 := b.waits.map Duration.millisWord

/-- Writes a list of numbers without blanks. -/
def writeNumbers (ns : List UInt64) : String :=
  "[" ++ ",".intercalate (ns.map fun n => Nat.repr n.toNat) ++ "]"

def write (b : Backoff) : String := writeNumbers b.toMillis

end Reattempt.Backoff
