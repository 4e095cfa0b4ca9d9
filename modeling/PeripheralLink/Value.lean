import PeripheralLink.Text.Quoted
import PeripheralLink.Number.Reading
/-!
Plain data values: what a setting, an address or a header field may be given as before it is
checked.  A truth value counts as the integer zero or one wherever an integer is wanted, and keeps
its own form only where it is shown.
-/

namespace PeripheralLink

/-- A value as a front end hands it over. -/
inductive Value
  | null
  | bool (b : Bool)
  | int (n : Int)
  | float (x : Float)
  | text (s : String)
  | list (items : List Value)
  | record (fields : List (String × Value))
deriving Inhabited

namespace Value

/-- The integer that a value is, truth values included. -/
def int? : Value → Option Int
  | int n => some n
  | bool b => some (if b then 1 else 0)
  | _ => none

/-- The double nearest to a number. -/
def float? : Value → Option Float
  | float x => some x
  | v => v.int?.bind Number.ofInt?

def text? : Value → Option String
  | text s => some s
  | _ => none

/-- The value counts as true where a truth value is wanted: nothing, zero and what is empty do not. -/
def truth : Value → Bool
  | null => false
  | bool b => b
  | int n => n != 0
  | float x => x != 0.0
  | text s => !s.isEmpty
  | list items => !items.isEmpty
  | record fields => !fields.isEmpty

/-- The word for a value's kind in reports. -/
def kind : Value → String
  | null => "NoneType"
  | bool _ => "bool"
  | int _ => "int"
  | float _ => "float"
  | text _ => "str"
  | list _ => "list"
  | record _ => "dict"

mutual

/-- The value as a report shows it. -/
def shown : Value → String
  | null => "None"
  | bool true => "True"
  | bool false => "False"
  | int n => Number.integer n
  | float x => Number.plain.write x
  | text s => Text.quote s.toList
  | list items => "[" ++ shownItems items ++ "]"
  | record fields => "\x7b" ++ shownFields fields ++ "\x7d"

def shownItems : List Value → String
  | [] => ""
  | [item] => item.shown
  | item :: rest => item.shown ++ ", " ++ shownItems rest

def shownFields : List (String × Value) → String
  | [] => ""
  | [(name, value)] => Text.quote name.toList ++ ": " ++ value.shown
  | (name, value) :: rest =>
    Text.quote name.toList ++ ": " ++ value.shown ++ ", " ++ shownFields rest

end

/-- The value inside running text: a text stands for itself. -/
def inline : Value → String
  | text s => s
  | v => v.shown

/-- A text that is given whole or in parts, each of which may be repeated. -/
def spelled : Value → String
  | text s => s
  | list parts => String.join (parts.map fun
      | text s => s
      | list [text s, times] => String.join (List.replicate (times.int?.getD 0).toNat s)
      | _ => "")
  | _ => ""

/-- A double equals an integer when it stands for exactly that number. -/
private def floatIsInt (x : Float) (n : Int) : Bool :=
  match Number.Binary.ofFloat x with
  | .finite negative significand power =>
    let whole := significand * Nat.pow 2 power.toNat
    let unit := Nat.pow 2 (-power).toNat
    whole % unit == 0 && (if negative then -Int.ofNat (whole / unit) else whole / unit) == n
  | _ => false

mutual

/-- Equality of values: numbers by what they stand for, records by their fields in any order. -/
def same : Value → Value → Bool
  | null, null => true
  | float x, float y => x == y
  | float x, v => match v.int? with | some n => floatIsInt x n | none => false
  | text s, text t => s == t
  | list items, list others => sameItems items others
  | record fields, record others =>
    fields.length == others.length && sameFields fields others
  | bool b, v =>
    match v with
    | float y => floatIsInt y (if b then 1 else 0)
    | _ => v.int? == some (if b then 1 else 0)
  | int n, v =>
    match v with
    | float y => floatIsInt y n
    | _ => v.int? == some n
  | _, _ => false

def sameItems : List Value → List Value → Bool
  | [], [] => true
  | v :: rest, w :: others => same v w && sameItems rest others
  | _, _ => false

/-- Every field has a field of its name with an equal value among the others. -/
def sameFields : List (String × Value) → List (String × Value) → Bool
  | [], _ => true
  | (name, v) :: rest, others =>
    (match others.lookup name with | some w => same v w | none => false) && sameFields rest others

end

example : (list [int 1, text "a"]).shown = "[1, 'a']" := by decide +kernel

end Value

/-- A whole number as it was entered.  One that was entered as a truth value is shown as such. -/
structure Whole where
  value : Int
  isTruth : Bool := false
deriving DecidableEq

instance : Coe Int Whole := ⟨fun n => ⟨n, false⟩⟩

def Whole.entered (n : Whole) : Value := if n.isTruth then .bool (n.value != 0) else .int n.value

def Whole.shown (n : Whole) : String := n.entered.shown

/-- The whole number that a value is, truth values included. -/
def Value.whole? : Value → Option Whole
  | .int n => some ⟨n, false⟩
  | .bool b => some ⟨if b then 1 else 0, true⟩
  | _ => none

/-- A whole number stands for the integer of the value it was entered as. -/
theorem Value.whole?_map_value (v : Value) : v.whole?.map Whole.value = v.int? := by
  cases v <;> rfl

end PeripheralLink
