/-!
Digits: the decimal digits of every script, hexadecimal digits in both cases, and the number that the
digits of a base stand for.  The main statements are `hexByte?_hexByte`, that the two digits written
for a byte read back as that byte, and `positional_eq_foldl`, that joining digits pair by pair comes
to the same number as taking them one after the other.
-/

namespace PeripheralLink.Text

/-- Code points of the zeros of Unicode 14; each is followed by the other nine digits of its
script. -/
def zeros : List Nat :=
  [0x30, 0x660, 0x6f0, 0x7c0, 0x966, 0x9e6, 0xa66, 0xae6, 0xb66, 0xbe6, 0xc66, 0xce6, 0xd66, 0xde6,
    0xe50, 0xed0, 0xf20, 0x1040, 0x1090, 0x17e0, 0x1810, 0x1946, 0x19d0, 0x1a80, 0x1a90, 0x1b50,
    0x1bb0, 0x1c40, 0x1c50, 0xa620, 0xa8d0, 0xa900, 0xa9d0, 0xa9f0, 0xaa50, 0xabf0, 0xff10,
    0x104a0, 0x10d30, 0x11066, 0x110f0, 0x11136, 0x111d0, 0x112f0, 0x11450, 0x114d0, 0x11650,
    0x116c0, 0x11730, 0x118e0, 0x11950, 0x11c50, 0x11d50, 0x11da0, 0x16a60, 0x16ac0, 0x16b50,
    0x1d7ce, 0x1d7d8, 0x1d7e2, 0x1d7ec, 0x1d7f6, 0x1e140, 0x1e2f0, 0x1e950, 0x1fbf0]

/-- The value of a decimal digit of any script. -/
def digit? (c : Char) : Option Nat :=
  (zeros.find? fun first => first ≤ c.toNat && c.toNat < first + 10).map (c.toNat - ·)

/-- The digit that stands for a value below sixteen, in upper case. -/
def hexDigit (n : Nat) : Char := Char.ofNat (if n < 10 then 0x30 + n else 0x37 + n)

/-- The digit that stands for a value below sixteen, in lower case. -/
def hexDigitLower (n : Nat) : Char := Char.ofNat (if n < 10 then 0x30 + n else 0x57 + n)

/-- The value of a hexadecimal digit of either case; digits of other scripts do not count. -/
def hexValue? (c : Char) : Option Nat :=
  let n := c.toNat
  if 0x30 ≤ n ∧ n ≤ 0x39 then some (n - 0x30)
  else if 0x41 ≤ n ∧ n ≤ 0x46 then some (n - 0x37)
  else if 0x61 ≤ n ∧ n ≤ 0x66 then some (n - 0x57)
  else none

/-- Digits of the square of a base from digits of the base, the lowest first in both. -/
def joinPairs (base : Nat) : List Nat → List Nat
  | low :: high :: rest => (low + base * high) :: joinPairs base rest
  | ds => ds

/-- The number that digits of a base stand for, the lowest first.  Each round joins the digits pair by
pair, so that long numbers are multiplied only by long ones. -/
def positionalWithin : Nat → Nat → List Nat → Nat
  | _, _, [] => 0
  | _, _, [d] => d
  | 0, _, d :: _ => d
  | rounds + 1, base, ds => positionalWithin rounds (base * base) (joinPairs base ds)

/-- The number that digits of a base stand for, the highest first. -/
def positional (base : Nat) (ds : List Nat) : Nat := positionalWithin ds.length base ds.reverse

/-- The number that a non-empty run of hexadecimal digits stands for. -/
def hexNumber? (cs : List Char) : Option Nat :=
  if cs.isEmpty then none else (cs.mapM hexValue?).map (positional 16)

/-- The byte that exactly two hexadecimal digits stand for. -/
def hexByte? : List Char → Option UInt8
  | [a, b] =>
    match hexValue? a, hexValue? b with
    | some high, some low => some (UInt8.ofNat (high * 16 + low))
    | _, _ => none
  | _ => none

/-- A byte as two hexadecimal digits in upper case. -/
def hexByte (b : UInt8) : List Char := [hexDigit (b.toNat / 16), hexDigit (b.toNat % 16)]

/-- A byte as two hexadecimal digits in lower case. -/
def hexByteLower (b : UInt8) : List Char :=
  [hexDigitLower (b.toNat / 16), hexDigitLower (b.toNat % 16)]

/-- Bytes as a run of hexadecimal digits in lower case. -/
def hexText (bytes : List UInt8) : String := String.ofList (bytes.flatMap hexByteLower)

/-- An integer in hexadecimal, in upper case, filled with zeros to two places of which a sign takes
one. -/
def hexField (n : Int) : List Char :=
  let digits := (Nat.toDigits 16 n.natAbs).map Char.toUpper
  if n < 0 then '-' :: digits else List.replicate (2 - digits.length) '0' ++ digits

/-- The number that digits of a base stand for, the lowest first, taken one after the other. -/
private def lowestFirst (base : Nat) (ds : List Nat) : Nat := ds.foldr (fun d n => d + base * n) 0

private theorem lowestFirst_joinPairs (base : Nat) (ds : List Nat) :
    lowestFirst (base * base) (joinPairs base ds) = lowestFirst base ds := by
  fun_induction joinPairs base ds with
  | case1 low high rest ih =>
      simp only [lowestFirst, List.foldr_cons] at ih ⊢
      rw [ih, Nat.mul_add, Nat.add_assoc, Nat.mul_assoc]
  | case2 ds hds =>
      match ds, hds with
      | [], _ => rfl
      | [d], _ => simp [lowestFirst]
      | low :: high :: rest, hds => exact absurd rfl (hds low high rest)

private theorem length_joinPairs (base : Nat) (ds : List Nat) :
    (joinPairs base ds).length = (ds.length + 1) / 2 := by
  fun_induction joinPairs base ds with
  | case1 low high rest ih => simp only [List.length_cons, ih]; omega
  | case2 ds hds =>
      match ds, hds with
      | [], _ => rfl
      | [d], _ => simp
      | low :: high :: rest, hds => exact absurd rfl (hds low high rest)

private theorem positionalWithin_eq (rounds base : Nat) (ds : List Nat) (h : ds.length ≤ rounds + 1) :
    positionalWithin rounds base ds = lowestFirst base ds := by
  fun_induction positionalWithin rounds base ds with
  | case1 => rfl
  | case2 => simp [lowestFirst]
  | case3 base d rest hne =>
      cases rest with
      | nil => simp [lowestFirst]
      | cons e rest => simp at h
  | case4 rounds base ds hnil hone ih =>
      rw [ih, lowestFirst_joinPairs]
      rw [length_joinPairs]
      omega

/-- Joining digits pair by pair comes to the same number as taking them one after the other. -/
theorem positional_eq_foldl (base : Nat) (ds : List Nat) :
    positional base ds = ds.foldl (fun n d => n * base + d) 0 := by
  rw [positional, positionalWithin_eq _ _ _ (by simp), lowestFirst, List.foldr_reverse]
  congr 1
  funext n d
  rw [Nat.mul_comm, Nat.add_comm]

theorem hexValue?_hexDigit : ∀ n < 16, hexValue? (hexDigit n) = some n := by decide

/-- The two digits written for a byte read back as that byte. -/
theorem hexByte?_hexByte (b : UInt8) : hexByte? (hexByte b) = some b := by
  have hb : b.toNat < 256 := b.toNat_lt
  have hhigh := hexValue?_hexDigit (b.toNat / 16) (by omega)
  have hlow := hexValue?_hexDigit (b.toNat % 16) (by omega)
  have hsum : b.toNat / 16 * 16 + b.toNat % 16 = b.toNat := by omega
  simp only [hexByte, hexByte?, hhigh, hlow, hsum, UInt8.ofNat_toNat]

example : hexField 7 = "07".toList ∧ hexField 4096 = "1000".toList ∧ hexField (-1) = "-1".toList := by
  decide

example : digit? '٣' = some 3 ∧ digit? '²' = none := by decide

end PeripheralLink.Text
