import PeripheralLink.Number.Binary
/-!
The fewest decimal digits that read back as the same double.  Between a double and its neighbours
lies the interval of numbers that round to it; the digits are a point of the coarsest decimal grid
that meets this interval, the nearer one where two points of that grid do.
-/

namespace PeripheralLink.Number

/-- The number `digits · 10 ^ power`. -/
structure Decimal where
  digits : Nat
  power : Int
deriving DecidableEq

/-- The numerator and the denominator that a fraction gains from `base ^ power`. -/
private def powerParts (base : Nat) (power : Int) : Nat × Nat :=
  (base.pow power.toNat, base.pow (-power).toNat)

/-- Four times the significand on the scale that is four times as fine, with the ends of the
interval of numbers that round to it.  Below a power of two the lower neighbour is half as far. -/
private structure Interval where
  low : Nat
  middle : Nat
  high : Nat
  power : Int
  closed : Bool

private def Interval.of (significand : Nat) (power : Int) : Interval where
  low :=
    if significand == Nat.pow 2 52 && power != -1074 then 4 * significand - 1
    else 4 * significand - 2
  middle := 4 * significand
  high := 4 * significand + 2
  power := power - 2
  closed := significand % 2 == 0

/-- A point `count · 10 ^ grid` rounds to the middle of the interval. -/
private def Interval.holds (i : Interval) (grid : Int) (count : Nat) : Bool :=
  let (up, down) := powerParts 2 i.power
  let (tenUp, tenDown) := powerParts 10 grid
  let point := count * tenUp * down
  let low := i.low * up * tenDown
  let high := i.high * up * tenDown
  if i.closed then low ≤ point && point ≤ high else low < point && point < high

/-- The point of the grid of `10 ^ grid` that rounds to the middle and lies nearest to it, if any;
of two equally near points the even one. -/
private def Interval.hit? (i : Interval) (grid : Int) : Option Nat :=
  let (up, down) := powerParts 2 i.power
  let (tenUp, tenDown) := powerParts 10 grid
  let value := i.middle * up * tenDown
  let unit := tenUp * down
  let below := value / unit
  let rest := 2 * (value % unit)
  match i.holds grid below, i.holds grid (below + 1) with
  | true, true =>
    some (if rest < unit || (rest == unit && below % 2 == 0) then below else below + 1)
  | true, false => some below
  | false, true => some (below + 1)
  | false, false => none

/-- The power of ten of the leading digit of `significand · 2 ^ power`, for a positive significand:
an estimate from the binary length, which is never too large and at most one too small. -/
def leadingPower (significand : Nat) (power : Int) : Int :=
  let estimate := (Int.ofNat significand.log2 + power) * 30103 / 100000
  let next := estimate + 1
  let (up, down) := powerParts 2 power
  let (tenUp, tenDown) := powerParts 10 next
  if tenUp * down ≤ significand * up * tenDown then next else estimate

private def strip (fuel : Nat) (d : Decimal) : Decimal :=
  match fuel with
  | 0 => d
  | fuel + 1 => if d.digits % 10 == 0 then strip fuel ⟨d.digits / 10, d.power + 1⟩ else d

/-- The shortest decimal that reads back as `significand · 2 ^ power`, for a positive significand.
Seventeen digits always suffice. -/
def Decimal.shortest (significand : Nat) (power : Int) : Decimal :=
  let interval := Interval.of significand power
  let lead := leadingPower significand power
  let found := (List.range 17).findSome? fun (fewer : Nat) =>
    let grid := lead - Int.ofNat fewer
    (interval.hit? grid).map fun count => Decimal.mk count grid
  strip 20 (found.getD ⟨significand, 0⟩)

example : Decimal.shortest (2 ^ 52) (-52) = ⟨1, 0⟩ := by decide +kernel

example : Decimal.shortest 1 (-1074) = ⟨5, -324⟩ := by decide +kernel

end PeripheralLink.Number
