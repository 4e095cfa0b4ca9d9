import PeripheralLink.Value
/-!
Values as JSON: the one line of a status report, and descriptions of events that are read a line at a
time.  What is written stays within ASCII, with a blank after each comma and colon; what is read may
name the numbers that are not finite.
-/

namespace PeripheralLink.Value

mutual

/-- A text with the value's JSON after it. -/
def jsonAfter (out : String) : Value → String
  | null => out ++ "null"
  | bool true => out ++ "true"
  | bool false => out ++ "false"
  | int n => out ++ Number.integer n
  | float x => out ++ Number.named.write x
  | text s => out ++ Text.jsonString s
  | list items => jsonItemsAfter (out ++ "[") items ++ "]"
  | record fields => jsonFieldsAfter (out ++ "\x7b") fields ++ "\x7d"

/-- A text with values of a JSON array after it. -/
def jsonItemsAfter (out : String) : List Value → String
  | [] => out
  | [item] => jsonAfter out item
  | item :: rest => jsonItemsAfter (jsonAfter out item ++ ", ") rest

/-- A text with fields of a JSON object after it. -/
def jsonFieldsAfter (out : String) : List (String × Value) → String
  | [] => out
  | [(name, value)] => jsonAfter (out ++ Text.jsonString name ++ ": ") value
  | (name, value) :: rest =>
    jsonFieldsAfter (jsonAfter (out ++ Text.jsonString name ++ ": ") value ++ ", ") rest

end

def json (v : Value) : String := jsonAfter "" v

/-- Blanks between the parts of JSON. -/
def isJsonBlank (c : Char) : Bool := c == ' ' || c == '\t' || c == '\n' || c == '\r'

def nextPart (cs : List Char) : List Char := cs.dropWhile isJsonBlank

/-- The character that an escape of one letter stands for. -/
def escaped : Char → Char
  | 'n' => '\n'
  | 't' => '\t'
  | 'r' => '\r'
  | 'b' => '\x08'
  | 'f' => '\x0c'
  | c => c

/-- The character that two UTF-16 units stand for, a high one and a low one. -/
def ofUnits (high low : Nat) : Char := Char.ofNat (0x10000 + (high - 0xD800) * 0x400 + (low - 0xDC00))

/-- Reads a JSON string from behind its first mark; the characters before, in reverse, stand in `read`. -/
def readString? (read : List Char) : List Char → Option (String × List Char)
  | '\x22' :: rest => some (String.ofList read.reverse, rest)
  | '\x5c' :: 'u' :: a :: b :: c :: d :: '\x5c' :: 'u' :: e :: f :: g :: h :: rest =>
    match Text.hexNumber? [a, b, c, d], Text.hexNumber? [e, f, g, h] with
    | some high, some low =>
      if 0xD800 ≤ high ∧ high < 0xDC00 ∧ 0xDC00 ≤ low ∧ low < 0xE000 then
        readString? (ofUnits high low :: read) rest
      else
        readString? (Char.ofNat high :: read) ('\x5c' :: 'u' :: e :: f :: g :: h :: rest)
    | _, _ => none
  | '\x5c' :: 'u' :: a :: b :: c :: d :: rest =>
    match Text.hexNumber? [a, b, c, d] with
    | some unit => readString? (Char.ofNat unit :: read) rest
    | none => none
  | '\x5c' :: c :: rest => readString? (escaped c :: read) rest
  | c :: rest => readString? (c :: read) rest
  | [] => none

/-- The characters of numbers. -/
def isNumeric (c : Char) : Bool :=
  c.isDigit || c == '-' || c == '+' || c == '.' || c == 'e' || c == 'E'

/-- The number that characters stand for: a whole one unless a point or an exponent makes it a double. -/
def ofNumeral? (cs : List Char) : Option Value :=
  if cs.any fun c => c == '.' || c == 'e' || c == 'E' then
    (Number.readFloat? (String.ofList cs)).map .float
  else
    let digits := cs.dropWhile (· == '-')
    if digits.isEmpty || !digits.all Char.isDigit then none
    else
      let n := Int.ofNat (Number.ofDigits digits)
      some (.int (if cs.length == digits.length then n else -n))

/-- Words that stand for values. -/
def jsonWords : List (String × Value) :=
  [("true", .bool true), ("false", .bool false), ("null", .null), ("NaN", .float (0.0 / 0.0)),
    ("Infinity", .float (1.0 / 0.0)), ("-Infinity", .float (-1.0 / 0.0))]

def readAtom? (cs : List Char) : Option (Value × List Char) :=
  match jsonWords.find? fun (word, _) => word.toList.isPrefixOf cs with
  | some (word, v) => some (v, cs.drop word.length)
  | none => (ofNumeral? (cs.takeWhile isNumeric)).map fun v => (v, cs.dropWhile isNumeric)

mutual

/-- Reads a value in at most as many steps as `bound`. -/
def readValue? (bound : Nat) (cs : List Char) : Option (Value × List Char) :=
  match bound, nextPart cs with
  | 0, _ => none
  | _ + 1, '\x22' :: rest => (readString? [] rest).map fun (s, rest) => (.text s, rest)
  | bound + 1, '[' :: rest =>
    match nextPart rest with
    | ']' :: rest => some (.list [], rest)
    | rest => readItems? bound [] rest
  | bound + 1, '\x7b' :: rest =>
    match nextPart rest with
    | '\x7d' :: rest => some (.record [], rest)
    | rest => readFields? bound [] rest
  | _ + 1, cs => readAtom? cs

/-- Reads the items of an array; those before stand in `items`, in reverse. -/
def readItems? (bound : Nat) (items : List Value) (cs : List Char) : Option (Value × List Char) :=
  match bound with
  | 0 => none
  | bound + 1 =>
    match readValue? bound cs with
    | none => none
    | some (item, rest) =>
      match nextPart rest with
      | ',' :: rest => readItems? bound (item :: items) rest
      | ']' :: rest => some (.list (item :: items).reverse, rest)
      | _ => none

/-- Reads the fields of an object; those before stand in `fields`, in reverse. -/
def readFields? (bound : Nat) (fields : List (String × Value)) (cs : List Char) :
    Option (Value × List Char) :=
  match bound, nextPart cs with
  | 0, _ => none
  | bound + 1, '\x22' :: rest =>
    match readString? [] rest with
    | none => none
    | some (name, rest) =>
      match nextPart rest with
      | ':' :: rest =>
        match readValue? bound rest with
        | none => none
        | some (value, rest) =>
          match nextPart rest with
          | ',' :: rest => readFields? bound ((name, value) :: fields) rest
          | '\x7d' :: rest => some (.record ((name, value) :: fields).reverse, rest)
          | _ => none
      | _ => none
  | _, _ => none

end

/-- The value that a text stands for in JSON. -/
def ofJson? (s : String) : Option Value :=
  let cs := s.toList
  match readValue? (2 * cs.length + 1) cs with
  | some (v, rest) => if (nextPart rest).isEmpty then some v else none
  | none => none

example : ((ofJson? "[1, \x7b\"a\": [true, null]\x7d]").map json) =
    some "[1, \x7b\"a\": [true, null]\x7d]" := by
  decide +kernel

end PeripheralLink.Value
