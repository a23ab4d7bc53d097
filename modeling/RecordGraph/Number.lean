import RecordGraph.Number.Double

/-!
# Numbers of a document

A number is either a whole number that 64 bits hold exactly, signed below zero
and unsigned above, or a finite double.  The two forms of one value are
different numbers, but they compare through doubles.
-/

namespace RecordGraph

/-- A 64-bit count, as pagination uses it. -/
abbrev Count := UInt64

/-- A natural number cut to the greatest count. -/
def Count.ofNat (value : Nat) : Count :=
  if value < 0x10000000000000000 then UInt64.ofNat value else 0xFFFFFFFFFFFFFFFF

/-- A whole number that fits 64 bits, signed below zero and unsigned above. -/
structure Whole where
  value : Int
  lower : -0x8000000000000000 ≤ value
  upper : value < 0x10000000000000000
  deriving DecidableEq, Repr

namespace Whole

def ofInt? (value : Int) : Option Whole :=
  if inRange : -0x8000000000000000 ≤ value ∧ value < 0x10000000000000000 then
    some ⟨value, inRange.1, inRange.2⟩
  else
    none

def ofCount (count : Count) : Whole :=
  ⟨count.toNat, by omega, by have := count.toNat_lt; omega⟩

/-- A whole number that is not negative, as a count. -/
def count? (whole : Whole) : Option Count :=
  if whole.value < 0 then none else some (Count.ofNat whole.value.toNat)

end Whole

/-- A number of a document. -/
inductive Number where
  | whole (value : Whole)
  | double (value : Double)
  deriving DecidableEq, Repr

namespace Number

/-- A natural number, cut to the greatest whole number. -/
def ofNat (value : Nat) : Number :=
  .whole (Whole.ofCount (Count.ofNat value))

def toDouble : Number → Double
  | .whole value => Double.ofInt value.value
  | .double value => value

/-- Equality of numeric value, through doubles. -/
def equal (left right : Number) : Bool := left.toDouble.equal right.toDouble

/-- Order of numeric value, through doubles. -/
def compare (left right : Number) : Ordering := left.toDouble.compare right.toDouble

/-- Equality of form and value: whole numbers equal whole numbers only. -/
def same : Number → Number → Bool
  | .whole left, .whole right => left == right
  | .double left, .double right => left.equal right
  | _, _ => false

/-- Whether the number is zero in either form. -/
def isZero : Number → Bool
  | .whole value => value.value == 0
  | .double value => value.isZero

def isBelowZero (number : Number) : Bool := number.toDouble.isBelowZero

end Number

end RecordGraph
