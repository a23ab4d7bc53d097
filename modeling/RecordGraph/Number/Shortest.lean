import RecordGraph.Number.Double

/-!
# Shortest decimal form

The shortest decimal of a finite double is the decimal with the fewest digits
among those nearer to it than to any other double; of several such decimals it
is the nearest one.  For each number of digits only the two neighbours of the
value on that decimal grid can qualify, so seventeen comparisons in exact
natural-number arithmetic decide it.
-/

namespace RecordGraph

/-- A decimal number `coefficient * 10 ^ exponent`. -/
structure Decimal where
  coefficient : Nat
  exponent : Int
  deriving DecidableEq, Repr

namespace Decimal

/-- The decimal digits of a natural number, most significant first. -/
def digits (value : Nat) : List Char := Nat.toDigits 10 value

/-- Drop trailing zeros of the coefficient, at most `fuel` of them. -/
def stripZeros (fuel : Nat) (decimal : Decimal) : Decimal :=
  match fuel with
  | 0 => decimal
  | fuel + 1 =>
      if decimal.coefficient % 10 = 0 then
        stripZeros fuel ⟨decimal.coefficient / 10, decimal.exponent + 1⟩
      else
        decimal

end Decimal

namespace Double

/-! ## Rounding interval -/

/-- Decimal scale at which every grid of up to seventeen digits is integral for
every positive double. -/
def gridScale : Nat := tenTo 341

/-- Scaled denominator of the rounding interval: quarters of the least unit. -/
def intervalDenominator : Nat := 4 * unitsPerOne

/-- The decimals that round to a positive double, as numerators over
`intervalDenominator`, at the scale of `gridScale`. -/
structure RoundingInterval where
  low : Nat
  center : Nat
  high : Nat
  /-- Whether the two ends round to the double as well. -/
  closed : Bool
  deriving Repr

/-- Half of the gap on either side of the double; the lower gap is half as wide
just above a power of two.  The ends tie towards even significands. -/
def roundingInterval (x : Double) : RoundingInterval :=
  let center := 4 * x.units
  let halfGap := 2 * twoTo x.binade
  let lowerHalfGap :=
    if x.significand = fractionCount ∧ 0 < x.binade then twoTo x.binade else halfGap
  { low := (center - lowerHalfGap) * gridScale
    center := center * gridScale
    high := (center + halfGap) * gridScale
    closed := x.significand % 2 == 0 }

/-- Whether a scaled grid point rounds to the double. -/
def RoundingInterval.contains (interval : RoundingInterval) (point : Nat) : Bool :=
  let numerator := point * intervalDenominator
  if interval.closed then
    interval.low ≤ numerator && numerator ≤ interval.high
  else
    interval.low < numerator && numerator < interval.high

/-- The better of two neighbouring grid points `lower` and `lower + 1`, counted
in steps of `10 ^ place`: the nearer one inside the interval, the even one on an
exact tie. -/
def RoundingInterval.choose? (interval : RoundingInterval) (place lower : Nat) : Option Nat :=
  let lowerFits := interval.contains (lower * tenTo place)
  let upperFits := interval.contains ((lower + 1) * tenTo place)
  let below := interval.center - lower * tenTo place * intervalDenominator
  let above := (lower + 1) * tenTo place * intervalDenominator - interval.center
  if lowerFits && upperFits then
    if below < above then some lower
    else if above < below then some (lower + 1)
    else some (lower + lower % 2)
  else if lowerFits then some lower
  else if upperFits then some (lower + 1)
  else none

/-! ## Choice of the digits -/

/-- Most digits that any double needs. -/
def mostDigits : Nat := 17

/-- The absolute value as a decimal, with all its digits. -/
def exactDecimal (x : Double) : Decimal := ⟨x.units * Nat.pow 5 1074, -1074⟩

/-- The decimal with the given number of digits that rounds to the double, if
there is one. -/
def decimalOfWidth? (x : Double) (count : Nat) : Option Decimal :=
  let interval := x.roundingInterval
  let scaled := interval.center / intervalDenominator
  let place := (Decimal.digits scaled).length - count
  (interval.choose? place (scaled / tenTo place)).map fun coefficient =>
    ⟨coefficient, (place : Int) - 341⟩

/-- The shortest decimal form of the absolute value of a nonzero double.  The exact
value stands in where no decimal of the most digits rounds to the double, which
happens for none. -/
def shortest (x : Double) : Decimal :=
  let chosen := ((List.range' 1 mostDigits).findSome? x.decimalOfWidth?).getD x.exactDecimal
  chosen.stripZeros (Decimal.digits chosen.coefficient).length

end Double

end RecordGraph
