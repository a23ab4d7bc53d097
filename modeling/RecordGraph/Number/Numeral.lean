import RecordGraph.Number

/-!
# Reading numerals

A numeral is scanned once into its parts, and two readers share the scan.  A
JSON numeral keeps a whole number exactly while it fits 64 bits; any other
becomes a double built from as many leading digits as fit 64 bits, scaled by
one rounded power of ten.  A count written as text is read as the double
nearest to the decimal it spells.
-/

namespace RecordGraph

/-- The parts of a numeral as it is written. -/
structure Numeral where
  negative : Bool
  plus : Bool
  integral : List Char
  fraction : Option (List Char)
  exponent : Option Int
  deriving Repr

namespace Numeral

/-! ## Scanning -/

/-- A leading sign, as (minus, plus), and what follows it. -/
def splitSign : List Char → Bool × Bool × List Char
  | '-' :: rest => (true, false, rest)
  | '+' :: rest => (false, true, rest)
  | rest => (false, false, rest)

/-- A written exponent: an optional sign and at least one digit. -/
def exponentOf? (text : List Char) : Option Int :=
  let (minus, _, digits) := splitSign text
  if !digits.isEmpty && digits.all Char.isDigit then
    let size : Int := Nat.ofDigitChars 10 digits 0
    some (if minus then -size else size)
  else
    none

/-- The parts of a text that consists of an optional sign, digits, an optional
point with digits and an optional exponent.  Digits may be missing. -/
def scan? (text : List Char) : Option Numeral :=
  let (negative, plus, unsigned) := splitSign text
  let (integral, afterIntegral) := unsigned.span Char.isDigit
  let (fraction, afterFraction) :=
    match afterIntegral with
    | '.' :: rest =>
        let (digits, after) := rest.span Char.isDigit
        (some digits, after)
    | rest => (none, rest)
  match afterFraction with
  | [] => some { negative, plus, integral, fraction, exponent := none }
  | mark :: rest =>
      if mark = 'e' ∨ mark = 'E' then
        (exponentOf? rest).map fun size =>
          { negative, plus, integral, fraction, exponent := some size }
      else
        none

/-! ## JSON numerals -/

/-- Whether the parts form a JSON numeral: no plus sign, no superfluous leading
zero, and digits on both sides of a point. -/
def isJson (numeral : Numeral) : Bool :=
  !numeral.plus &&
  (match numeral.integral with
    | [] => false
    | ['0'] => true
    | first :: _ => first != '0') &&
  numeral.fraction != some []

/-- Greatest significand that is kept while digits are read. -/
def significandLimit : Nat := 0xFFFFFFFFFFFFFFFF

/-- A significand under construction, scaled by a power of ten. -/
structure Significand where
  value : Nat
  exponent : Int
  /-- Whether a digit was dropped, so that no further one is kept. -/
  full : Bool
  deriving Repr

/-- Take a digit before the point: one that no longer fits scales the rest. -/
def Significand.takeIntegral (significand : Significand) (digit : Char) : Significand :=
  let extended := Nat.ofDigitChars 10 [digit] significand.value
  if significand.full || significandLimit < extended then
    { significand with exponent := significand.exponent + 1, full := true }
  else
    { significand with value := extended }

/-- Take a digit after the point: one that no longer fits is dropped. -/
def Significand.takeFraction (significand : Significand) (digit : Char) : Significand :=
  let extended := Nat.ofDigitChars 10 [digit] significand.value
  if significand.full || significandLimit < extended then
    { significand with full := true }
  else
    { significand with value := extended, exponent := significand.exponent - 1 }

/-- The leading digits of a numeral that fit 64 bits.  A fraction is read afresh
after an integral part that did not fit. -/
def significand (numeral : Numeral) : Significand :=
  let integral := numeral.integral.foldl Significand.takeIntegral ⟨0, 0, false⟩
  (numeral.fraction.getD []).foldl Significand.takeFraction { integral with full := false }

/-- The greatest exponent of ten whose power is a finite double. -/
def greatestPower : Nat := 308

def power (exponent : Nat) : Double :=
  (Double.ofQuotient? (tenTo exponent) 1).getD (.largest false)

/-- Divide by a power of ten, in steps of the greatest one. -/
def scaleDown (value : Double) (exponent : Nat) : Option Double :=
  if exponent ≤ greatestPower then value.div? (power exponent)
  else if value.isZero then some value
  else
    (value.div? (power greatestPower)).bind fun smaller =>
      scaleDown smaller (exponent - greatestPower)
termination_by exponent
decreasing_by simp only [greatestPower] at *; omega

/-- Scale by a power of ten; too large a result is refused. -/
def scale (value : Double) (exponent : Int) : Option Double :=
  if exponent < 0 then scaleDown value exponent.natAbs
  else if exponent.toNat ≤ greatestPower then value.mul? (power exponent.toNat)
  else if value.isZero then some value
  else none

/-- The double of a JSON numeral, built from its leading digits. -/
def scaledDouble? (numeral : Numeral) : Option Double :=
  let leading := numeral.significand
  (scale (.ofInt leading.value) (leading.exponent + numeral.exponent.getD 0)).map
    (·.withSign numeral.negative)

/-- The integer that a numeral without point and exponent spells; minus zero
spells none. -/
def integer? (numeral : Numeral) : Option Int :=
  if numeral.fraction.isSome || numeral.exponent.isSome then none
  else
    let size : Int := Nat.ofDigitChars 10 numeral.integral 0
    if numeral.negative then (if size = 0 then none else some (-size)) else some size

end Numeral

/-- The number of a JSON numeral: nothing when its value is too large. -/
def Number.ofNumeral? (numeral : Numeral) : Option Number :=
  match numeral.integer?.bind Whole.ofInt? with
  | some value => some (.whole value)
  | none => numeral.scaledDouble?.map .double

/-! ## Counts written as text -/

namespace Numeral

/-- The double nearest to `coefficient * 10 ^ exponent`, or nothing when that is
too large.  Exponents beyond the range of doubles are decided by the number of
digits alone. -/
def nearestDouble? (coefficient : Nat) (exponent : Int) : Option Double :=
  let width : Int := (Nat.toDigits 10 coefficient).length
  if coefficient = 0 then some .zero
  else if 400 < exponent then none
  else if width + exponent < -400 then some .zero
  else if exponent < 0 then Double.ofQuotient? coefficient (tenTo exponent.natAbs)
  else Double.ofQuotient? (coefficient * tenTo exponent.toNat) 1

/-- The finite double nearest to the decimal that the text spells: an optional
sign, digits with an optional point on either side of them, and an optional
exponent. -/
def decimalText? (text : List Char) : Option Double :=
  (scan? text).bind fun numeral =>
    let fraction := numeral.fraction.getD []
    let digits := numeral.integral ++ fraction
    if digits.isEmpty then none
    else
      (nearestDouble? (Nat.ofDigitChars 10 digits 0)
        (numeral.exponent.getD 0 - fraction.length)).map (·.withSign numeral.negative)

end Numeral

end RecordGraph
