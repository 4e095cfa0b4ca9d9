import PeripheralLink.Value
/-!
The layout of a log line: characters, and slots for the fields of what is logged.  A slot is a percent
sign, the name of a field in parentheses, and how its value is written: flags, a width, a precision and
the letter of a conversion.  A percent sign is written twice.

A layout that cannot be read has no lines, and neither has one that asks for a field that is not there
or for a conversion that its value does not have.
-/

namespace PeripheralLink

inductive FieldValue
  | text (s : String)
  | whole (n : Whole)
  | number (x : Float)
  | thing (shown : String)

/-- How the value of a field is written. -/
inductive Conversion
  | inline
  | shown
  | ascii
  | decimal
  | octal
  | hexadecimal (upper : Bool)
  | fixed
  | scientific (upper : Bool)
  | general (upper : Bool)
  /-- As the one character that it is, or whose code point it is. -/
  | character
deriving DecidableEq

def Conversion.ofLetter? : Char → Option Conversion
  | 's' => some inline
  | 'r' => some shown
  | 'a' => some ascii
  | 'd' => some decimal
  | 'i' => some decimal
  | 'u' => some decimal
  | 'o' => some octal
  | 'x' => some (hexadecimal false)
  | 'X' => some (hexadecimal true)
  | 'f' => some fixed
  | 'F' => some fixed
  | 'e' => some (scientific false)
  | 'E' => some (scientific true)
  | 'g' => some (general false)
  | 'G' => some (general true)
  | 'c' => some character
  | _ => none

structure Slot where
  field : String
  /-- A hyphen moves the value to the left end, a zero fills numbers up with zeros, a plus sign and a
  blank stand before numbers without a sign, and a number sign asks for the long form. -/
  flags : List Char := []
  width : Nat := 0
  precision : Option Nat := none
  conversion : Conversion
deriving DecidableEq

inductive LinePart
  | literal (c : Char)
  | slot (s : Slot)
deriving DecidableEq

/-- The name of a field up to the parenthesis that closes it, and what follows.  Parentheses within the
name come in pairs, of which `depth` are open. -/
def fieldName? (depth : Nat) : List Char → Option (List Char × List Char)
  | [] => none
  | ')' :: rest =>
    match depth with
    | 0 => some ([], rest)
    | depth + 1 => (fieldName? depth rest).map fun (name, rest) => (')' :: name, rest)
  | '(' :: rest => (fieldName? (depth + 1) rest).map fun (name, rest) => ('(' :: name, rest)
  | c :: rest => (fieldName? depth rest).map fun (name, rest) => (c :: name, rest)

/-- The bound of widths and precisions. -/
def slotBound : Nat := Nat.pow 2 31

/-- A run of digits as a number below the bound, zero if it is empty, and what follows. -/
def slotNumber? (cs : List Char) : Option (Nat × List Char) :=
  let n := Number.ofDigits (cs.takeWhile Char.isDigit)
  if n < slotBound then some (n, cs.dropWhile Char.isDigit) else none

def slotFlags : List Char := ['-', '+', ' ', '#', '0']

/-- Reads a slot from the name of its field on.  One letter for the size of a number may stand before
that of the conversion and means nothing. -/
def Slot.read? (cs : List Char) : Option (Slot × List Char) := do
  let (field, cs) ← fieldName? 0 cs
  let flags := cs.takeWhile slotFlags.contains
  let (width, cs) ← slotNumber? (cs.dropWhile slotFlags.contains)
  let (precision, cs) ← match cs with
    | '.' :: rest => (slotNumber? rest).map fun (n, rest) => (some n, rest)
    | cs => some (none, cs)
  let cs := match cs with
    | c :: rest => if ['h', 'l', 'L'].contains c then rest else cs
    | [] => []
  match cs with
  | [] => none
  | letter :: rest =>
    let conversion ← Conversion.ofLetter? letter
    return (⟨String.ofList field, flags, width, precision, conversion⟩, rest)

/-- Reads the parts of a layout, of which there are at most as many as characters. -/
def readParts : Nat → List Char → Option (List LinePart)
  | _, [] => some []
  | 0, _ => none
  | bound + 1, '%' :: '%' :: rest => (readParts bound rest).map (.literal '%' :: ·)
  | bound + 1, '%' :: '(' :: cs => do
    let (s, rest) ← Slot.read? cs
    return .slot s :: (← readParts bound rest)
  | _, '%' :: _ => none
  | bound + 1, c :: rest => (readParts bound rest).map (.literal c :: ·)

def readLayout (cs : List Char) : Option (List LinePart) := readParts cs.length cs

namespace Slot

def has (s : Slot) (flag : Char) : Bool := s.flags.contains flag

/-- Brings a value to the width: blanks fill it up at one end, or zeros between the sign and the mark of
a number and its digits. -/
def fill (s : Slot) (before digits : List Char) (isNumber : Bool) : List Char :=
  let missing := s.width - (before.length + digits.length)
  if s.has '-' then before ++ digits ++ List.replicate missing ' '
  else if isNumber && s.has '0' then before ++ List.replicate missing '0' ++ digits
  else List.replicate missing ' ' ++ before ++ digits

/-- A text, cut to the precision. -/
def ofText (s : Slot) (text : String) : List Char :=
  s.fill [] (match s.precision with | some n => text.toList.take n | none => text.toList) false

def sign (s : Slot) (negative : Bool) : List Char :=
  if negative then ['-'] else if s.has '+' then ['+'] else if s.has ' ' then [' '] else []

/-- A whole number in a base, with zeros before its digits up to the precision; the long form shows the
mark of the base. -/
def ofWhole (s : Slot) (n : Int) (base : Nat) (mark : List Char) (upper : Bool) : List Char :=
  let digits := Nat.toDigits base n.natAbs
  let digits := if upper then digits.map Char.toUpper else digits
  let zeros := List.replicate (s.precision.getD 0 - digits.length) '0'
  s.fill (s.sign (n < 0) ++ if s.has '#' then mark else []) (zeros ++ digits) true

/-- A double, as its magnitude is written. -/
def ofDouble (s : Slot) (x : Float) (write : Float → String) (upper : Bool) : List Char :=
  let cs := (write x.abs).toList
  s.fill (s.sign (x < 0.0)) (if upper then cs.map Char.toUpper else cs) true

/-- The shown form of a value. -/
def shownBy (quoted : String → String) : FieldValue → Option String
  | .text text => some (quoted text)
  | .whole n => if Number.isWritable n.value then some n.shown else none
  | .number x => some (Number.plain.write x)
  | .thing shown => some shown

/-- The whole number that a value is. -/
def whole? : FieldValue → Option Int
  | .whole n => some n.value
  | _ => none

/-- The whole number that a value is without its fraction. -/
def truncated? : FieldValue → Option Int
  | .whole n => some n.value
  | .number x => Number.truncate? x
  | _ => none

/-- The double nearest to a number. -/
def double? : FieldValue → Option Float
  | .whole n => Number.ofInt? n.value
  | .number x => some x
  | _ => none

/-- The character that a value is, or whose code point it is. -/
def character? : FieldValue → Option Char
  | .text text => match text.toList with | [c] => some c | _ => none
  | .whole n => if 0 ≤ n.value ∧ n.value.toNat.isValidChar then some (Char.ofNat n.value.toNat) else none
  | _ => none

/-- Writes a value, if it has the conversion. -/
def write? (s : Slot) (v : FieldValue) : Option (List Char) :=
  let places := s.precision.getD 6
  match s.conversion with
  | .inline => (shownBy id v).map s.ofText
  | .shown => (shownBy (fun text => Text.quote text.toList) v).map s.ofText
  | .ascii => (shownBy (fun text => Text.quoteAscii text.toList) v).map s.ofText
  | .decimal => do
    let n ← truncated? v
    if Number.isWritable n then return s.ofWhole n 10 [] false else none
  | .octal => (whole? v).map fun n => s.ofWhole n 8 ['0', 'o'] false
  | .hexadecimal upper =>
    (whole? v).map fun n => s.ofWhole n 16 ['0', if upper then 'X' else 'x'] upper
  | .fixed => do
    let point := if s.has '#' && places = 0 then "." else ""
    return s.ofDouble (← double? v) (fun x => Number.fixed places x ++ point) false
  | .scientific upper =>
    (double? v).map fun x => s.ofDouble x (Number.scientific places (s.has '#')) upper
  | .general upper =>
    (double? v).map fun x => s.ofDouble x (Number.general (max places 1) (s.has '#')) upper
  | .character => (character? v).map fun c => s.fill [] [c] false

end Slot

/-- What a part comes to, for fields given by their names. -/
def LinePart.write? (fields : String → Option FieldValue) : LinePart → Option (List Char)
  | literal c => some [c]
  | slot s => (fields s.field).bind s.write?

/-- The line that a layout makes of fields. -/
def writeParts? (fields : String → Option FieldValue) (parts : List LinePart) : Option String :=
  (parts.mapM (LinePart.write? fields)).map fun pieces => String.ofList pieces.flatten

example : (readLayout "%(n)#08x|".toList).bind (writeParts? fun _ => some (.whole ⟨20, false⟩)) =
    some "0x000014|" := by
  decide +kernel

example : readLayout "%5%".toList = none := by decide +kernel

end PeripheralLink
