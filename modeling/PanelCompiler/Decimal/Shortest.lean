import PanelCompiler.Decimal.Binary

/-!
The shortest decimal that reads back as a given binary number. Grids of one, two, … seventeen
digits are tried in turn; on each grid only the two neighbours of the value can be nearest, so the
first grid with a neighbour inside the rounding interval decides.
-/

namespace PanelCompiler.Decimal

/-- A decimal number: its size is `digits * 10 ^ exponent`. -/
structure Digits where
  digits : Nat
  exponent : Int

/-- The reals that round to one number. Bounds are quarters of the unit `2 ^ exponent`, and they
belong to the interval when `closed` holds. -/
structure RoundingInterval where
  lower : Nat
  value : Nat
  upper : Nat
  exponent : Int
  closed : Bool

/-- Half a unit each way, but only a quarter below a power of two. -/
def RoundingInterval.ofBinary (x : Binary) : RoundingInterval :=
  let below := if x.significand == leastNormal && leastExponent < x.exponent then 1 else 2
  { lower := 4 * x.significand - below
    value := 4 * x.significand
    upper := 4 * x.significand + 2
    exponent := x.exponent - 2
    closed := x.significand % 2 == 0 }

/-- Compare `left * 2 ^ binary` with `right * 10 ^ decimal`. -/
def compareScaled (left : Nat) (binary : Int) (right : Nat) (decimal : Int) : Ordering :=
  let (leftNum, leftDen) := powerOfTwoRatio left binary
  let (rightNum, rightDen) := powerOfTenRatio right decimal
  compare (leftNum * rightDen) (rightNum * leftDen)

def RoundingInterval.contains (interval : RoundingInterval) (candidate : Digits) : Bool :=
  let low := compareScaled interval.lower interval.exponent candidate.digits candidate.exponent
  let high := compareScaled interval.upper interval.exponent candidate.digits candidate.exponent
  (low == .lt || (interval.closed && low == .eq)) &&
    (high == .gt || (interval.closed && high == .eq))

/-- How many decimal digits a number has. -/
def digitCount (n : Nat) : Nat :=
  (Nat.toDigits 10 n).length

/-- Below every double, this many decimal places leave a digit before the point. -/
def roomyPlaces : Nat := 400

/-- The decimal exponent of the first digit of `value * 2 ^ exponent`. -/
def leadingExponent (value : Nat) (exponent : Int) : Int :=
  let (num, den) := powerOfTwoRatio value exponent
  (digitCount (num * powerOfTen roomyPlaces / den) : Int) - 1 - roomyPlaces

/-- The greatest decimal on the grid `10 ^ grid` that is not above the value. -/
def RoundingInterval.floorOn (interval : RoundingInterval) (grid : Int) : Nat :=
  let (num, den) := powerOfTwoRatio interval.value interval.exponent
  if grid < 0 then num * powerOfTen grid.natAbs / den else num / (den * powerOfTen grid.natAbs)

/-- Twice the value against the sum of two neighbours on a grid: which of them is nearer? -/
def RoundingInterval.nearer (interval : RoundingInterval) (floor : Nat) (grid : Int) : Nat :=
  match compareScaled (2 * interval.value) interval.exponent (2 * floor + 1) grid with
  | .lt => floor
  | .gt => floor + 1
  | .eq => if floor % 2 == 0 then floor else floor + 1

/-- The decimal of this grid that reads back, if there is one. -/
def RoundingInterval.onGrid? (interval : RoundingInterval) (grid : Int) : Option Digits :=
  let floor := interval.floorOn grid
  let lowFits := interval.contains ⟨floor, grid⟩
  let highFits := interval.contains ⟨floor + 1, grid⟩
  match lowFits, highFits with
  | true, true => some ⟨interval.nearer floor grid, grid⟩
  | true, false => some ⟨floor, grid⟩
  | false, true => some ⟨floor + 1, grid⟩
  | false, false => none

/-- Try ever finer grids, `steps` of them. -/
def RoundingInterval.search (interval : RoundingInterval) : Nat → Int → Digits
  | 0, grid => ⟨interval.floorOn grid, grid⟩
  | steps + 1, grid =>
    match interval.onGrid? grid with
    | some found => found
    | none => interval.search steps (grid - 1)

/-- Seventeen digits always suffice. -/
def mostDigits : Nat := 17

/-- The shortest decimal that reads back as `x`, and of those the nearest to it. -/
def shortest (x : Binary) : Digits :=
  if x.significand == 0 then ⟨0, 0⟩
  else
    let interval := RoundingInterval.ofBinary x
    interval.search mostDigits (leadingExponent interval.value interval.exponent)

end PanelCompiler.Decimal
