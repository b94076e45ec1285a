import Reattempt.Text.Quoted

/-!
# Shapes of values

A value is shown by its shape: the name of what made it and the shapes of its parts. A shape is
laid out on one line, or over several lines with four blanks for each level.
-/

namespace Reattempt

/-- The visible structure of a value. -/
inductive Shape where
  /-- A number, a quoted text, or a name that stands alone. -/
  | atom (text : String)
  /-- A name with unnamed parts. -/
  | tuple (name : String) (parts : List Shape)
  /-- A name with named parts, of which some may be left out of sight. -/
  | record (name : String) (fields : List (String × Shape)) (complete : Bool)
  | list (items : List Shape)

namespace Shape

def quoted (text : String) : Shape := .atom (Text.quote text)

def number (n : Nat) : Shape := .atom (Nat.repr n)

def truth (b : Bool) : Shape := .atom (if b then "true" else "false")

def hidden (name : String) : Shape := .record name [] false

def option : Option Shape → Shape
  | none => .atom "None"
  | some s => .tuple "Some" [s]

/-! ## On one line -/

/-- What stands at the end of the fields on one line. -/
def lineTail (fields : List String) (complete : Bool) : List String :=
  if complete then fields else fields ++ [".."]

mutual

def line : Shape → String
  | atom text => text
  | tuple name parts => name ++ "(" ++ ", ".intercalate (linesOf parts) ++ ")"
  | record name fields complete =>
    name ++ " \x7b " ++ ", ".intercalate (lineTail (lineFields fields) complete) ++ " \x7d"
  | list items => "[" ++ ", ".intercalate (linesOf items) ++ "]"

/-- The layouts of several shapes, each on one line. -/
def linesOf : List Shape → List String
  | [] => []
  | s :: rest => s.line :: linesOf rest

/-- Named parts, each on one line behind its name. -/
def lineFields : List (String × Shape) → List String
  | [] => []
  | (name, s) :: rest => (name ++ ": " ++ s.line) :: lineFields rest

end

/-! ## Over several lines -/

/-- The blanks in front of a line at the given depth. -/
def indent (depth : Nat) : String := String.ofList (List.replicate (4 * depth) ' ')

/-- Parts one below the other between two brackets, each indented once more than the brackets. -/
def block (depth : Nat) (opening closing : String) (rows : List String) : String :=
  opening ++ "\n" ++ String.join (rows.map fun row => indent (depth + 1) ++ row ++ "\n") ++
    indent depth ++ closing

mutual

/-- The layout over several lines, for a shape that starts at the given depth. -/
def layout (depth : Nat) : Shape → String
  | atom text => text
  | tuple name parts =>
    block depth (name ++ "(") ")" (rowsOf (depth + 1) parts)
  | record name [] complete => (record name [] complete).line
  | record name fields complete =>
    block depth (name ++ " \x7b") "\x7d" (lineTail (rowFields (depth + 1) fields) complete)
  | list [] => "[]"
  | list items => block depth "[" "]" (rowsOf (depth + 1) items)

/-- The rows of several shapes, each closed by a comma. -/
def rowsOf (depth : Nat) : List Shape → List String
  | [] => []
  | s :: rest => (s.layout depth ++ ",") :: rowsOf depth rest

/-- The rows of named parts, each behind its name and closed by a comma. -/
def rowFields (depth : Nat) : List (String × Shape) → List String
  | [] => []
  | (name, s) :: rest => (name ++ ": " ++ s.layout depth ++ ",") :: rowFields depth rest

end

def lines (s : Shape) : String := s.layout 0

end Shape

end Reattempt
