import PeripheralLink.Value
import PeripheralLink.Text.Blank
/-!
Thresholds below which reports are not written: numbers, of which eight have names.
-/

namespace PeripheralLink

/-- The names that a threshold may be given by; the first name of a number is the one it is shown by. -/
def thresholdNames : List (String × Int) :=
  [("CRITICAL", 50), ("ERROR", 40), ("WARNING", 30), ("INFO", 20), ("DEBUG", 10), ("NOTSET", 0),
    ("FATAL", 50), ("WARN", 30)]

/-- The upper case of a character as far as names of thresholds are concerned: besides the letters of
ASCII, the dotless i and the long s have one within ASCII. -/
def upperCase (c : Char) : Char :=
  if c = 'ı' then 'I' else if c = 'ſ' then 'S' else c.toUpper

/-- The threshold that a value stands for: a number as it is, a name in any case between blanks, and
anything else as that of information. -/
def threshold (v : Value) : Value :=
  match v with
  | .int _ => v
  | .bool _ => v
  | .text s =>
    let name := String.ofList ((Text.trim Text.isBlank s.toList).map upperCase)
    .int ((thresholdNames.lookup name).getD 20)
  | _ => .int 20

/-- The name of a number, or the number itself. -/
def thresholdName (v : Value) : String :=
  match thresholdNames.find? fun (_, n) => v.int? == some n with
  | some (name, _) => name
  | none => "Level " ++ v.shown

example : (threshold (.text " warn\n")).int? = some 30 ∧ (threshold (.text "LOUD")).int? = some 20 := by
  decide +kernel

end PeripheralLink
