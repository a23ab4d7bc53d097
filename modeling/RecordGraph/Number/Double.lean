/-!
# Finite doubles

A finite double is a sign and the 63 magnitude bits of its binary64 encoding.
Those bits grow with the absolute value, so equality and order of doubles are
equality and order of a signed magnitude, and every finite double is a whole
number of units of `2 ^ (-1074)`.  Rounding works on such units with exact
natural-number arithmetic: `Double.nearest` gives the magnitude nearest to a
quotient, a tie going to the even neighbour.
-/

namespace RecordGraph

/-! ## Powers -/

def twoTo (exponent : Nat) : Nat := Nat.pow 2 exponent

def tenTo (exponent : Nat) : Nat := Nat.pow 10 exponent

/-! ## Doubles -/

/-- A finite binary64 number: its sign and its remaining 63 bits. -/
structure Double where
  /-- Whether the sign bit is set; negative zero is a value of its own. -/
  negative : Bool
  /-- Exponent field and fraction, read as one natural number. -/
  magnitude : Nat
  /-- The exponent field is not the one kept for infinities. -/
  magnitude_lt : magnitude < 0x7FF0000000000000
  deriving DecidableEq, Repr

namespace Double

/-- The magnitude of the least infinity, which no double reaches. -/
def magnitudeLimit : Nat := 0x7FF0000000000000

/-- How many magnitudes share an exponent field: the fraction has 52 bits. -/
def fractionCount : Nat := 0x10000000000000

/-! ## Exact value -/

def zero : Double := ⟨false, 0, by decide⟩

/-- The double of greatest absolute value with the given sign. -/
def largest (negative : Bool) : Double := ⟨negative, magnitudeLimit - 1, by decide⟩

/-- The integer `m` of the absolute value `m * 2 ^ (binade - 1074)`. -/
def significand (x : Double) : Nat :=
  if x.magnitude / fractionCount = 0 then x.magnitude
  else x.magnitude % fractionCount + fractionCount

/-- The power of two that scales the significand, counted from the least one. -/
def binade (x : Double) : Nat := x.magnitude / fractionCount - 1

/-- The absolute value in units of `2 ^ (-1074)`. -/
def units (x : Double) : Nat := x.significand * twoTo x.binade

/-- How many units of `2 ^ (-1074)` make one. -/
def unitsPerOne : Nat := twoTo 1074

/-- Magnitude with its sign, which orders doubles as their values do. -/
def key (x : Double) : Int := if x.negative then -(x.magnitude : Int) else x.magnitude

theorem magnitude_eq_of_key_eq {x y : Double} (sameKey : x.key = y.key) :
    x.magnitude = y.magnitude := by
  unfold key at sameKey
  split at sameKey <;> split at sameKey <;> omega

/-- Equality of values: the two zeros are equal. -/
def equal (x y : Double) : Bool := x.key == y.key

def compare (x y : Double) : Ordering := Ord.compare x.key y.key

/-- Whether the value is zero, of either sign. -/
def isZero (x : Double) : Bool := x.magnitude == 0

/-- Whether the value is below zero; negative zero is not. -/
def isBelowZero (x : Double) : Bool := x.negative && !x.isZero

def withSign (negative : Bool) (x : Double) : Double := { x with negative }

/-- The absolute value cut to an integer. -/
def floorAbs (x : Double) : Nat := x.units / unitsPerOne

/-! ## Rounding -/

/-- Quotient of two natural numbers rounded to the nearest integer, a tie going
to the even neighbour. -/
def roundQuotient (numerator denominator : Nat) : Nat :=
  let quotient := numerator / denominator
  let twiceRest := 2 * (numerator % denominator)
  if twiceRest < denominator then quotient
  else if denominator < twiceRest then quotient + 1
  else quotient + quotient % 2

/-- Magnitude bits nearest to `numerator / denominator` units.  The scale is the
least one that leaves at most 53 bits, and a significand that rounds up to the
next power of two carries into the exponent field by itself. -/
def nearestUnits (numerator denominator : Nat) : Nat :=
  let binade := (numerator / denominator).log2 - 52
  binade * fractionCount + roundQuotient numerator (denominator * twoTo binade)

/-- The double nearest to a quotient of natural numbers, or nothing when the
quotient is too large for a finite double. -/
def ofQuotient? (numerator denominator : Nat) : Option Double :=
  let magnitude := nearestUnits (numerator * unitsPerOne) denominator
  if fits : magnitude < magnitudeLimit then some ⟨false, magnitude, fits⟩ else none

/-- The double nearest to an integer, cut to the largest one. -/
def ofInt (value : Int) : Double :=
  ((ofQuotient? value.natAbs 1).getD (largest false)).withSign (value < 0)

/-- Product of two absolute values, rounded. -/
def mul? (x y : Double) : Option Double :=
  ofQuotient? (x.units * y.units) (unitsPerOne * unitsPerOne)

/-- Quotient of two absolute values, rounded. -/
def div? (x y : Double) : Option Double := ofQuotient? x.units y.units

end Double

end RecordGraph
