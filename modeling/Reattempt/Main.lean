import Reattempt.Demo.Examples

/-!
# The demonstration as a program

Prints what the demonstration shows, with log entries between the lines.
-/

namespace Reattempt.Demo

def fieldText : Log.Value → String
  | .text s => s
  | .number n => Nat.repr n
  | .seconds d => toString d.toSeconds

def fieldsText (fields : List (String × Log.Value)) : String :=
  " ".intercalate (fields.map fun field => field.1 ++ "=" ++ fieldText field.2)

def levelText : Log.Level → String
  | .error => "ERROR"
  | .warn => " WARN"
  | .info => " INFO"
  | .debug => "DEBUG"

def entryText (entry : Log.Entry) : String :=
  let spans := entry.spans.map fun span =>
    span.name ++ "\x7b" ++ fieldsText span.fields ++ "\x7d: "
  levelText entry.event.level ++ " " ++ String.join spans ++ entry.event.message ++ " " ++
    fieldsText entry.event.fields

def Item.text : Item → String
  | .printed text => text
  | .logged entry => entryText entry

end Reattempt.Demo

def main : IO Unit :=
  Reattempt.Demo.all.1.forM fun item => IO.println item.text
