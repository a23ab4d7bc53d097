import RecordGraph.Number.Numeral
import RecordGraph.Number.Shortest

/-!
# Writing numbers

Whole numbers are written in decimal.  A double is written with its shortest
digits and always shows that it is one, by a point or by an exponent.
-/

namespace RecordGraph

/-- Which decimal exponents are written without an exponent part. -/
structure PositionalRange where
  /-- The least such exponent. -/
  least : Int
  /-- The least greater exponent that is not one. -/
  limit : Int

/-- Doubles are written positionally from `0.00001` up to, but not including,
ten to the sixteenth. -/
def Double.positional : PositionalRange := ⟨-5, 16⟩

/-- The digits of an integer, after a minus sign if it is negative. -/
def integerText (value : Int) : List Char :=
  (if value < 0 then ['-'] else []) ++ Nat.toDigits 10 value.natAbs

/-- Write digits whose first one stands for `10 ^ exponent` with a point. -/
def positionalText (digits : List Char) (exponent : Int) : List Char :=
  if exponent < 0 then
    ['0', '.'] ++ List.replicate (exponent.natAbs - 1) '0' ++ digits
  else
    let width := exponent.toNat + 1
    let integral := digits.take width ++ List.replicate (width - digits.length) '0'
    let fraction := digits.drop width
    integral ++ ['.'] ++ (if fraction.isEmpty then ['0'] else fraction)

/-- Write digits whose first one stands for `10 ^ exponent` with an exponent part,
whose sign is always written. -/
def exponentText (digits : List Char) (exponent : Int) : List Char :=
  let fraction := digits.drop 1
  digits.take 1 ++ (if fraction.isEmpty then [] else '.' :: fraction) ++ ['e'] ++
    (if exponent < 0 then ['-'] else ['+']) ++ Nat.toDigits 10 exponent.natAbs

namespace Double

def absText (x : Double) : List Char :=
  if x.isZero then ['0', '.', '0']
  else
    let decimal := x.shortest
    let digits := Decimal.digits decimal.coefficient
    let exponent := decimal.exponent + digits.length - 1
    if positional.least ≤ exponent ∧ exponent < positional.limit then
      positionalText digits exponent
    else
      exponentText digits exponent

def text (x : Double) : List Char :=
  (if x.negative then ['-'] else []) ++ x.absText

end Double

def Number.text : Number → List Char
  | .whole value => integerText value.value
  | .double value => value.text

end RecordGraph
