import PeripheralLink.Text.Blank
import PeripheralLink.Text.Digits
import PeripheralLink.Number.Notation
/-!
How numbers are read from text.  Blanks may surround a number, a sign may lead it, digits of any
script may make it up, and single underscores may stand between digits.
-/

namespace PeripheralLink.Number

/-- The characters of a number field without surrounding blanks, every digit in ASCII.  Outside
ASCII only blanks and digits can stand in a number. -/
private def normalised (text : String) : Option (List Char) :=
  (Text.trim Text.isNumberBlank text.toList).mapM fun c =>
    if c.toNat < 0x80 then some c
    else (Text.digit? c).map Text.hexDigit

private def isAsciiDigit (c : Char) : Bool := 0x30 ≤ c.toNat && c.toNat ≤ 0x39

/-- The characters without underscores, each of which must stand between two digits. -/
private def withoutUnderscores (previous : Bool) : List Char → Option (List Char)
  | [] => some []
  | '_' :: c :: rest =>
    if previous && isAsciiDigit c then (withoutUnderscores true rest).map (c :: ·) else none
  | ['_'] => none
  | c :: rest => (withoutUnderscores (isAsciiDigit c) rest).map (c :: ·)

/-- A leading sign and what follows it. -/
private def signed : List Char → Bool × List Char
  | '-' :: rest => (true, rest)
  | '+' :: rest => (false, rest)
  | cs => (false, cs)

def ofDigits (cs : List Char) : Nat := Text.positional 10 (cs.map fun c => c.toNat - 0x30)

/-- The integer that a text stands for, if it has at most `digitLimit` digits. -/
def readInt? (text : String) : Option Int := do
  let (negative, digits) := signed (← withoutUnderscores false (← normalised text))
  if digits.isEmpty || !digits.all isAsciiDigit || digitLimit < digits.length then none
  else some (if negative then -Int.ofNat (ofDigits digits) else Int.ofNat (ofDigits digits))

section Digits

variable {cs : List Char}

private theorem isAsciiDigit_iff {c : Char} :
    isAsciiDigit c = true ↔ 0x30 ≤ c.toNat ∧ c.toNat ≤ 0x39 := by
  simp [isAsciiDigit]

private theorem withoutUnderscores_of_digits (h : ∀ c ∈ cs, isAsciiDigit c = true)
    (previous : Bool) : withoutUnderscores previous cs = some cs := by
  induction cs generalizing previous with
  | nil => rfl
  | cons c cs ih =>
      have hne : c ≠ '_' := by
        rintro rfl
        exact absurd (h '_' List.mem_cons_self) (by decide)
      rw [withoutUnderscores.eq_4 _ _ _ (fun _ _ hc _ => hne hc) (fun hc _ => hne hc),
        ih fun d hd => h d (List.mem_cons_of_mem c hd)]
      rfl

private theorem signed_of_digits (h : ∀ c ∈ cs, isAsciiDigit c = true) :
    signed cs = (false, cs) := by
  unfold signed
  split
  · exact absurd (h '-' List.mem_cons_self) (by decide)
  · exact absurd (h '+' List.mem_cons_self) (by decide)
  · rfl

private theorem dropWhile_of_digits (h : ∀ c ∈ cs, isAsciiDigit c = true) :
    cs.dropWhile Text.isNumberBlank = cs := by
  cases cs with
  | nil => rfl
  | cons c cs =>
      obtain ⟨hlow, hhigh⟩ := isAsciiDigit_iff.mp (h c List.mem_cons_self)
      have hkept : Text.isNumberBlank c = false := by
        rw [Text.isNumberBlank, if_pos (by omega)]
        simp only [Bool.or_eq_false_iff, Bool.and_eq_false_iff, decide_eq_false_iff_not,
          beq_eq_false_iff_ne]
        omega
      rw [List.dropWhile_cons_of_neg (by rw [hkept]; exact Bool.false_ne_true)]

private theorem normalised_of_digits (h : ∀ c ∈ cs, isAsciiDigit c = true) :
    normalised (String.ofList cs) = some cs := by
  have htrim : Text.trim Text.isNumberBlank cs = cs := by
    rw [Text.trim, dropWhile_of_digits h,
      dropWhile_of_digits fun c hc => h c (List.mem_reverse.mp hc), List.reverse_reverse]
  rw [normalised, String.toList_ofList, htrim]
  clear htrim
  induction cs with
  | nil => rfl
  | cons c cs ih =>
      obtain ⟨-, hhigh⟩ := isAsciiDigit_iff.mp (h c List.mem_cons_self)
      rw [List.mapM_cons, ih fun d hd => h d (List.mem_cons_of_mem c hd), if_pos (by omega)]
      rfl

/-- Decimal digits are read as the number they stand for. -/
theorem readInt?_of_digits (h : ∀ c ∈ cs, 0x30 ≤ c.toNat ∧ c.toNat ≤ 0x39) (hne : cs ≠ [])
    (hlen : cs.length ≤ digitLimit) :
    readInt? (String.ofList cs) = some (ofDigits cs : Int) := by
  replace h : ∀ c ∈ cs, isAsciiDigit c = true := fun c hc => isAsciiDigit_iff.mpr (h c hc)
  have hall : cs.all isAsciiDigit = true := List.all_eq_true.mpr h
  rw [readInt?, normalised_of_digits h]
  simp only [Option.bind_eq_bind, Option.bind_some, withoutUnderscores_of_digits h,
    signed_of_digits h, hall]
  rw [if_neg (by simp [hne, hlen])]
  rfl

end Digits

/-- `digits · 10 ^ power`, rounded to the nearest double.  Powers far beyond the range of doubles
are decided by the number of digits. -/
private def scaled (digits : List Char) (power : Int) : Float :=
  let digits := digits.dropWhile (· == '0')
  let place := digits.length + power
  if digits.isEmpty then 0.0
  else if 400 < place then 1.0 / 0.0
  else if place < -400 then 0.0
  else Float.ofScientific (ofDigits digits) (power < 0) power.natAbs

private def lower (cs : List Char) : List Char := cs.map Char.toLower

/-- The double that a decimal without a sign stands for: digits with an optional point among or
around them, then an optional exponent. -/
private def readMagnitude? (cs : List Char) : Option Float := do
  let whole := cs.takeWhile isAsciiDigit
  let afterWhole := cs.dropWhile isAsciiDigit
  let (fraction, rest) := match afterWhole with
    | '.' :: more => (more.takeWhile isAsciiDigit, more.dropWhile isAsciiDigit)
    | _ => ([], afterWhole)
  if whole.isEmpty && fraction.isEmpty then none
  else
    let exponent ← match rest with
      | [] => some 0
      | e :: more =>
        if e != 'e' && e != 'E' then none
        else
          let (negative, digits) := signed more
          if digits.isEmpty || !digits.all isAsciiDigit then none
          else if negative then some (-Int.ofNat (ofDigits digits))
          else some (Int.ofNat (ofDigits digits))
    some (scaled (whole ++ fraction) (exponent - fraction.length))

/-- The double that a text stands for, infinities and the undefined number by name in any case. -/
def readFloat? (text : String) : Option Float := do
  let (negative, cs) := signed (← withoutUnderscores false (← normalised text))
  let magnitude ←
    if lower cs == "inf".toList || lower cs == "infinity".toList then some (1.0 / 0.0)
    else if lower cs == "nan".toList then some (0.0 / 0.0)
    else readMagnitude? cs
  some (if negative then -magnitude else magnitude)

def ofInt? (n : Int) : Option Float :=
  let magnitude := Float.ofScientific n.natAbs false 0
  if magnitude.isFinite then some (if n < 0 then -magnitude else magnitude) else none

example : readInt? " +1_000\n" = some 1000 ∧ readInt? "1__0" = none ∧ readInt? "٣" = some 3 := by
  decide +kernel

end PeripheralLink.Number
