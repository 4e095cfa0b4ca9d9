/-!
A double as the number it stands for: sign, significand and power of two, read from its bits.
-/

namespace PeripheralLink.Number

/-- What a double stands for; `finite` is `significand · 2 ^ power`, with a sign. -/
inductive Binary
  | finite (negative : Bool) (significand : Nat) (power : Int)
  | infinite (negative : Bool)
  | undefined
deriving DecidableEq

/-- The parts of a double. -/
def Binary.ofFloat (x : Float) : Binary :=
  let bits := x.toBits.toNat
  let negative := bits / Nat.pow 2 63 == 1
  let exponent : Nat := bits / Nat.pow 2 52 % 2048
  let fraction := bits % Nat.pow 2 52
  if exponent == 2047 then (if fraction == 0 then .infinite negative else .undefined)
  else if exponent == 0 then .finite negative fraction (-1074)
  else .finite negative (fraction + Nat.pow 2 52) (Int.ofNat exponent - 1075)

example : Binary.ofFloat 1.0 = .finite false (2 ^ 52) (-52) := by decide +kernel

example : Binary.ofFloat (-0.0) = .finite true 0 (-1074) := by decide +kernel

end PeripheralLink.Number
