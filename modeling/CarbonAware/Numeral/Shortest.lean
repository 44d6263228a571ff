/-!
# The shortest decimal

Every positive floating-point number `mantissa * 2 ^ exponent` is the rounding of all reals in an interval around
it.  `shortest` finds the decimal in that interval with the fewest digits, and the nearest of those.
-/

namespace CarbonAware.Numeral

/-- The decimal number `digits * 10 ^ exponent`. -/
structure Decimal where
  digits : Nat
  exponent : Int
deriving DecidableEq, Repr

/--
The reals that round to a floating-point number, as fractions over the one denominator `scale`: the number itself,
the two ends of the interval, and whether the ends belong to it.
-/
structure RoundingInterval where
  value : Nat
  low : Nat
  high : Nat
  closed : Bool
  scale : Nat
deriving DecidableEq, Repr

/--
The interval of `mantissa * 2 ^ exponent` reaches half way to the neighbours; below a power of two the neighbour is
twice as close, unless the numbers are already at their finest spacing.  The ends round to even mantissas.
-/
def RoundingInterval.of (mantissa : Nat) (exponent : Int) : RoundingInterval :=
  let below := if mantissa = Nat.pow 2 52 ∧ -1074 < exponent then 1 else 2
  let unit := Nat.pow 2 (exponent - 2).toNat
  { value := 4 * mantissa * unit
    low := (4 * mantissa - below) * unit
    high := (4 * mantissa + 2) * unit
    closed := mantissa % 2 == 0
    scale := Nat.pow 2 (2 - exponent).toNat }

/-- The interval with all fractions multiplied by `10 ^ shift` over the scale, so that the grid is the integers. -/
def RoundingInterval.onGrid (interval : RoundingInterval) (gridExponent : Int) : RoundingInterval :=
  let up := Nat.pow 10 (-gridExponent).toNat
  { interval with
    value := interval.value * up
    low := interval.low * up
    high := interval.high * up
    scale := interval.scale * Nat.pow 10 gridExponent.toNat }

/-- Whether the integer `n` lies in the interval. -/
def RoundingInterval.contains (interval : RoundingInterval) (n : Nat) : Bool :=
  if interval.closed then interval.low ≤ n * interval.scale && n * interval.scale ≤ interval.high
  else interval.low < n * interval.scale && n * interval.scale < interval.high

/-- The integer of the interval nearest to the value, the larger of two equally near ones. -/
def RoundingInterval.nearestInteger? (interval : RoundingInterval) : Option Nat :=
  let floor := interval.value / interval.scale
  match interval.contains floor, interval.contains (floor + 1) with
  | false, false => none
  | true, false => some floor
  | false, true => some (floor + 1)
  | true, true =>
    if 2 * (interval.value % interval.scale) < interval.scale then some floor else some (floor + 1)

/-- Searches ever finer decimal grids, from `gridExponent` on, for the first that meets the interval. -/
def RoundingInterval.search (interval : RoundingInterval) : Nat → Int → Decimal
  | 0, gridExponent =>
    let grid := interval.onGrid gridExponent
    ⟨grid.value / grid.scale, gridExponent⟩
  | fuel + 1, gridExponent =>
    match (interval.onGrid gridExponent).nearestInteger? with
    | some digits => ⟨digits, gridExponent⟩
    | none => interval.search fuel (gridExponent - 1)

/--
The decimal with the fewest digits that rounds to `mantissa * 2 ^ exponent`, and the nearest of those.  The first
grid is coarser than the value and seventeen digits always suffice, so twenty-four grids are enough.
-/
def shortest (mantissa : Nat) (exponent : Int) : Decimal :=
  let interval := RoundingInterval.of mantissa exponent
  let places (n : Nat) : Int := (Nat.toDigits 10 n).length
  interval.search 24 (places interval.value - places interval.scale + 1)

end CarbonAware.Numeral
