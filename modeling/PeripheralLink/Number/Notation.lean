import PeripheralLink.Number.Shortest
/-!
How numbers are written: integers in decimal, doubles by their shortest digits, and doubles with a
fixed number of places.
-/

namespace PeripheralLink.Number

def integer (n : Int) : String :=
  let digits := String.ofList (Nat.toDigits 10 n.natAbs)
  if n < 0 then "-" ++ digits else digits

/-- The most decimal digits an integer may have in a text. -/
def digitLimit : Nat := 4300

/-- The first number with more than `digitLimit` digits. -/
def unwritable : Nat := Nat.pow 10 digitLimit

/-- The integer has few enough digits to be written. -/
def isWritable (n : Int) : Bool := n.natAbs < unwritable

/-- What is said of an integer that has too many digits to be written. -/
def refusal : String :=
  "Exceeds the limit (" ++ integer digitLimit ++
    " digits) for integer string conversion; use sys.set_int_max_str_digits() to increase the limit"

/-- A text that shows integers.  If one of them cannot be written, that is said in its place. -/
def worded (shown : List Int) (text : String) : String := if shown.all isWritable then text else refusal

private def zerosText (n : Nat) : String := String.ofList (List.replicate n '0')

/-- The spellings and bounds of a notation for doubles. -/
structure Layout where
  /-- Positional notation ends above this place of the point. -/
  lastPlace : Int
  /-- Positional notation ends at this place of the point, leading zeros included. -/
  firstPlace : Int
  infinity : String
  undefined : String

/-- Positional from `0.0001` to below `10 ^ 16`; a whole number keeps `.0`. -/
def plain : Layout := ⟨16, -4, "inf", "nan"⟩

/-- The notation of a status line: as `plain`, with names for the numbers that are not finite. -/
def named : Layout := ⟨16, -4, "Infinity", "NaN"⟩

/-- An exponent: a sign and at least two digits. -/
private def exponentText (e : Int) : String :=
  let digits := integer e.natAbs
  (if e < 0 then "-" else "+") ++ (if digits.length < 2 then "0" ++ digits else digits)

/-- Digits with the point after the first `place` of them, or in scientific notation where the
layout does not write that place. -/
private def Layout.digits (layout : Layout) (d : Decimal) : String :=
  let text := integer d.digits
  let place := text.length + d.power
  if layout.firstPlace < place ∧ place ≤ layout.lastPlace then
    if place ≤ 0 then "0." ++ zerosText place.natAbs ++ text
    else if text.length ≤ place.toNat then text ++ zerosText (place.toNat - text.length) ++ ".0"
    else
      let cs := text.toList
      String.ofList (cs.take place.toNat) ++ "." ++ String.ofList (cs.drop place.toNat)
  else
    let cs := text.toList
    let fraction := String.ofList (cs.drop 1)
    String.ofList (cs.take 1) ++ (if fraction.isEmpty then "" else "." ++ fraction) ++ "e" ++
      exponentText (place - 1)

/-- A double by its shortest digits. -/
def Layout.write (layout : Layout) (x : Float) : String :=
  let signed (negative : Bool) (text : String) := if negative then "-" ++ text else text
  match Binary.ofFloat x with
  | .undefined => layout.undefined
  | .infinite negative => signed negative layout.infinity
  | .finite negative 0 _ => signed negative "0.0"
  | .finite negative significand power =>
    signed negative (layout.digits (Decimal.shortest significand power))

/-- The whole number that is left of a finite double without its fraction. -/
def truncate? (x : Float) : Option Int :=
  match Binary.ofFloat x with
  | .finite negative significand power =>
    let n := Int.ofNat (significand * Nat.pow 2 power.toNat / Nat.pow 2 (-power).toNat)
    some (if negative then -n else n)
  | _ => none

/-- The whole number nearest to `numerator / denominator`; a tie goes to the even neighbour. -/
def roundHalfEven (numerator denominator : Nat) : Nat :=
  let below := numerator / denominator
  let rest := 2 * (numerator % denominator)
  if rest < denominator ∨ (rest = denominator ∧ below % 2 = 0) then below else below + 1

/-- No double has digits other than zero beyond this place after the point. -/
def finestPlace : Nat := 1074

/-- No double has more digits than these from its first to its last that is not zero. -/
def mostDigits : Nat := 767

/-- A double with `places` digits after the point, rounded from its exact value. -/
def fixed (places : Nat) (x : Float) : String :=
  let signed (negative : Bool) (text : String) := if negative then "-" ++ text else text
  match Binary.ofFloat x with
  | .undefined => plain.undefined
  | .infinite negative => signed negative plain.infinity
  | .finite negative significand power =>
    let kept := min places finestPlace
    let count :=
      roundHalfEven (significand * Nat.pow 2 power.toNat * Nat.pow 10 kept) (Nat.pow 2 (-power).toNat)
    let whole := integer (count / Nat.pow 10 kept : Nat)
    let fraction := integer (count % Nat.pow 10 kept : Nat)
    signed negative <|
      if places = 0 then whole
      else whole ++ "." ++ zerosText (kept - fraction.length) ++ fraction ++ zerosText (places - kept)

/-- A double rounded to `places` digits after the first: the digits as one number, and the power of ten
of the first.  Rounding up may add a digit, which moves the first. -/
def significant (places significand : Nat) (power : Int) : Nat × Int :=
  if significand = 0 then (0, 0)
  else
    let lead := leadingPower significand power
    let grid := lead - places
    let count :=
      roundHalfEven (significand * Nat.pow 2 power.toNat * Nat.pow 10 (-grid).toNat)
        (Nat.pow 2 (-power).toNat * Nat.pow 10 grid.toNat)
    if count = Nat.pow 10 (places + 1) then (Nat.pow 10 places, lead + 1) else (count, lead)

/-- Digits with a point after the first of them, zeros at their end, and the power of ten of the
first. -/
private def scientificText (places count zeros : Nat) (lead : Int) (point : Bool) : String :=
  let cs := (integer count).toList
  let cs := List.replicate (places + 1 - cs.length) '0' ++ cs
  String.ofList (cs.take 1) ++ (if point || 0 < places then "." else "") ++
    String.ofList (cs.drop 1) ++ zerosText zeros ++ "e" ++ exponentText lead

/-- A double in scientific notation with `places` digits after the point, rounded from its exact
value.  Without such digits there is a point only on demand. -/
def scientific (places : Nat) (point : Bool) (x : Float) : String :=
  let signed (negative : Bool) (text : String) := if negative then "-" ++ text else text
  match Binary.ofFloat x with
  | .undefined => plain.undefined
  | .infinite negative => signed negative plain.infinity
  | .finite negative significand power =>
    let kept := min places mostDigits
    let (count, lead) := significant kept significand power
    signed negative (scientificText kept count (places - kept) lead point)

/-- Digits without the zeros at the end of their fraction, and without a point that ends them. -/
private def withoutTrailingZeros (cs : List Char) : List Char :=
  if cs.contains '.' then
    let stripped := cs.reverse.dropWhile (· == '0')
    (if stripped.head? == some '.' then stripped.drop 1 else stripped).reverse
  else cs

/-- A double by its first `digits` digits, at least one: positional where the power of ten of the first
lies from -4 to below `digits`, and scientific elsewhere.  Zeros at the end stay only on demand. -/
def general (digits : Nat) (zeros : Bool) (x : Float) : String :=
  let places := digits - 1
  match Binary.ofFloat x with
  | .finite _ significand power =>
    let lead := (significant (min places mostDigits) significand power).2
    let trimmed (cs : List Char) := if zeros then cs else withoutTrailingZeros cs
    if -4 ≤ lead ∧ lead ≤ places then
      let text := fixed (places - lead).toNat x
      String.ofList (trimmed (text.toList ++ if zeros && (places - lead).toNat = 0 then ['.'] else []))
    else
      let cs := (scientific places zeros x).toList
      String.ofList (trimmed (cs.takeWhile (· != 'e')) ++ cs.dropWhile (· != 'e'))
  | _ => plain.write x

theorem isWritable_iff (n : Int) : isWritable n = true ↔ n.natAbs < unwritable := by
  simp [isWritable]

example : plain.write 1.0 = "1.0" ∧ plain.write 1e22 = "1e+22" ∧ plain.write 0.00001 = "1e-05" := by
  decide +kernel

example : scientific 3 false 9999.6 = "1.000e+04" ∧ general 6 false 100000.0 = "100000" ∧
    general 6 false 1e6 = "1e+06" ∧ general 6 false 0.5 = "0.5" := by
  decide +kernel

example : fixed 0 0.5 = "0" ∧ fixed 0 1.5 = "2" ∧ fixed 1 0.25 = "0.2" := by decide +kernel

end PeripheralLink.Number
