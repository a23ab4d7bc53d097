import Mathlib.Algebra.Order.Field.Basic
import Mathlib.Algebra.Order.Field.Rat
import Mathlib.Order.Compare
import Mathlib.Tactic.Linarith
import RecordGraph.Number
import RecordGraph.Proofs.ShortestDecimal

/-!
# Doubles as rational numbers

A finite double denotes a rational number, a whole number of units of `2 ^ (-1074)`.
Doubles are equal and ordered as these numbers are.  A whole number is turned into
the double nearest to it, and into the one with the even significand where two are
equally near; no number has two nearest doubles of this kind.
-/

namespace RecordGraph

namespace Double

/-! ## Values -/

/-- The value in units of `2 ^ (-1074)`, with its sign. -/
def signedUnits (x : Double) : Int := if x.negative then -(x.units : Int) else x.units

/-- The rational number that a double denotes. -/
def value (x : Double) : ℚ := (x.signedUnits : ℚ) / (unitsPerOne : ℚ)

theorem unitsPerOne_pos : 0 < unitsPerOne := twoTo_pos 1074

theorem unitsPerOne_cast_pos : (0 : ℚ) < (unitsPerOne : ℚ) := Nat.cast_pos.mpr unitsPerOne_pos

theorem units_lt_units {x y : Double} (less : x.magnitude < y.magnitude) :
    x.units < y.units := by
  obtain ⟨distance, shape⟩ : ∃ distance, y.magnitude = x.magnitude + 1 + distance :=
    ⟨y.magnitude - x.magnitude - 1, by omega⟩
  have ordered := (highEnd_le_lowEnd distance shape).1
  have belowValue : y.lowEnd ≤ 4 * y.units := Nat.sub_le _ _
  have positive := twoTo_pos x.binade
  unfold highEnd at ordered
  omega

theorem units_eq_units {x y : Double} (same : x.magnitude = y.magnitude) :
    x.units = y.units := by
  unfold units significand binade
  rw [same]

theorem units_pos {x : Double} (positive : 0 < x.magnitude) : 0 < x.units :=
  have less : zero.magnitude < x.magnitude := positive
  Nat.lt_of_le_of_lt (Nat.zero_le _) (units_lt_units less)

theorem units_eq_zero {x : Double} (isZero : x.magnitude = 0) : x.units = 0 := by
  have sameUnits : x.units = zero.units := units_eq_units isZero
  have noUnits : zero.units = 0 := by decide
  omega

theorem signedUnits_lt_of_key_lt {x y : Double} (less : x.key < y.key) :
    x.signedUnits < y.signedUnits := by
  unfold key at less
  unfold signedUnits
  split at less <;> split at less <;> simp only [*, if_true, if_false, Bool.false_eq_true]
  · have := units_lt_units (show y.magnitude < x.magnitude by omega)
    omega
  · rcases Nat.eq_zero_or_pos x.magnitude with isZero | positive
    · have := units_pos (show 0 < y.magnitude by omega)
      omega
    · have := units_pos positive
      omega
  · omega
  · have := units_lt_units (show x.magnitude < y.magnitude by omega)
    omega

theorem signedUnits_eq_of_key_eq {x y : Double} (same : x.key = y.key) :
    x.signedUnits = y.signedUnits := by
  have sameUnits := units_eq_units (magnitude_eq_of_key_eq same)
  unfold key at same
  unfold signedUnits
  split at same <;> split at same <;> simp only [*, if_true, if_false, Bool.false_eq_true]
  · have := units_eq_zero (show x.magnitude = 0 by omega)
    omega
  · have := units_eq_zero (show x.magnitude = 0 by omega)
    omega

theorem value_lt_of_key_lt {x y : Double} (less : x.key < y.key) : x.value < y.value :=
  div_lt_div_of_pos_right (Int.cast_lt.mpr (signedUnits_lt_of_key_lt less)) unitsPerOne_cast_pos

theorem value_eq_of_key_eq {x y : Double} (same : x.key = y.key) : x.value = y.value := by
  rw [value, value, signedUnits_eq_of_key_eq same]

theorem key_lt_iff (x y : Double) : x.key < y.key ↔ x.value < y.value := by
  refine ⟨value_lt_of_key_lt, ?_⟩
  intro less
  rcases lt_trichotomy x.key y.key with keyLess | same | keyGreater
  · exact keyLess
  · exact absurd (value_eq_of_key_eq same) less.ne
  · exact absurd (value_lt_of_key_lt keyGreater) less.asymm

/-- Doubles are equal if they denote the same number. -/
theorem equal_iff (x y : Double) : x.equal y = true ↔ x.value = y.value := by
  rw [equal, beq_iff_eq]
  refine ⟨value_eq_of_key_eq, ?_⟩
  intro sameValue
  rcases lt_trichotomy x.key y.key with keyLess | same | keyGreater
  · exact absurd sameValue (value_lt_of_key_lt keyLess).ne
  · exact same
  · exact absurd sameValue (value_lt_of_key_lt keyGreater).ne'

/-- Doubles are ordered as the numbers are that they denote. -/
theorem compare_eq (x y : Double) : x.compare y = Ord.compare x.value y.value := by
  rw [compare]
  rcases lt_trichotomy x.key y.key with keyLess | same | keyGreater
  · rw [compare_lt_iff_lt.mpr keyLess, compare_lt_iff_lt.mpr (value_lt_of_key_lt keyLess)]
  · rw [compare_eq_iff_eq.mpr same, compare_eq_iff_eq.mpr (value_eq_of_key_eq same)]
  · rw [compare_gt_iff_gt.mpr keyGreater, compare_gt_iff_gt.mpr (value_lt_of_key_lt keyGreater)]

/-! ## The nearest double -/

/-- A double is nearest to a number, and has an even significand if another double is
equally near. -/
structure IsNearest (x : Double) (exact : ℚ) : Prop where
  least : ∀ y : Double, |x.value - exact| ≤ |y.value - exact|
  even_of_tie : ∀ y : Double, |y.value - exact| = |x.value - exact| → y.value ≠ x.value →
    x.significand % 2 = 0

theorem isNearest_value (x : Double) : x.IsNearest x.value := by
  constructor
  · intro y
    rw [sub_self, abs_zero]
    exact abs_nonneg _
  · intro y tie different
    rw [sub_self, abs_zero, abs_eq_zero, sub_eq_zero] at tie
    exact absurd tie different

theorem significand_eq_of_value_eq {x y : Double} (sameValue : x.value = y.value) :
    x.significand = y.significand := by
  have sameKey : x.key = y.key := beq_iff_eq.mp ((equal_iff x y).mpr sameValue)
  rw [significand, significand, magnitude_eq_of_key_eq sameKey]

/-- The two zeros are nearest to the same numbers. -/
theorem IsNearest.congr {x y : Double} {exact : ℚ} (near : x.IsNearest exact)
    (sameValue : x.value = y.value) : y.IsNearest exact := by
  rcases near with ⟨least, even⟩
  rw [sameValue] at least even
  rw [significand_eq_of_value_eq sameValue] at even
  exact ⟨least, even⟩

/-- To the number that a double denotes no other one is nearest. -/
theorem IsNearest.value_eq {x y : Double} (near : x.IsNearest y.value) : x.value = y.value := by
  have least := near.least y
  rw [sub_self, abs_zero] at least
  exact sub_eq_zero.mp (abs_eq_zero.mp (le_antisymm least (abs_nonneg _)))

/-- Greater numbers do not have lesser nearest doubles. -/
theorem IsNearest.value_le {x y : Double} {first second : ℚ} (near : x.IsNearest first)
    (otherNear : y.IsNearest second) (less : first < second) : x.value ≤ y.value := by
  by_contra greater
  have firstBound := near.least y
  have secondBound := otherNear.least x
  have firstLow : first ≥ (x.value + y.value) / 2 := by
    by_contra low
    rw [abs_of_nonneg (by linarith : 0 ≤ x.value - first)] at firstBound
    rcases abs_cases (y.value - first) with ⟨distance, _⟩ | ⟨distance, _⟩ <;> linarith
  have secondHigh : second ≤ (x.value + y.value) / 2 := by
    by_contra high
    rw [abs_of_nonpos (by linarith : y.value - second ≤ 0)] at secondBound
    rcases abs_cases (x.value - second) with ⟨distance, _⟩ | ⟨distance, _⟩ <;> linarith
  linarith

/-- The double of a signed magnitude. -/
theorem exists_key {key : Int} (inRange : key.natAbs < magnitudeLimit) :
    ∃ x : Double, x.key = key := by
  refine ⟨⟨decide (key < 0), key.natAbs, inRange⟩, ?_⟩
  by_cases negative : key < 0
  · simp only [Double.key, negative, decide_true, if_true]
    omega
  · simp only [Double.key, negative, decide_false, Bool.false_eq_true, if_false]
    omega

/-- Of two consecutive doubles just one has an even significand. -/
theorem significand_parity_of_key_next {x y : Double} (next : y.key = x.key + 1) :
    y.significand % 2 ≠ x.significand % 2 := by
  have magnitudes : y.magnitude = x.magnitude + 1 ∨ x.magnitude = y.magnitude + 1 := by
    unfold key at next
    split at next <;> split at next <;> omega
  rcases magnitudes with further | nearer
  · exact significand_parity_of_next further
  · exact (significand_parity_of_next nearer).symm

theorem IsNearest.not_lt {x y : Double} {exact : ℚ} (near : x.IsNearest exact)
    (otherNear : y.IsNearest exact) : ¬ x.value < y.value := by
  intro less
  have tie : |y.value - exact| = |x.value - exact| :=
    le_antisymm (otherNear.least x) (near.least y)
  have middle : y.value - exact = exact - x.value := by
    rcases abs_eq_abs.mp tie with same | opposite <;> linarith
  have even := near.even_of_tie y tie less.ne'
  have otherEven := otherNear.even_of_tie x tie.symm less.ne
  have keyLess := (key_lt_iff x y).mpr less
  by_cases next : y.key = x.key + 1
  · exact significand_parity_of_key_next next (otherEven.trans even.symm)
  · -- A double between two equally near ones would be nearer than both.
    have inRange : (x.key + 1).natAbs < magnitudeLimit := by
      have xSmall := x.magnitude_lt
      have ySmall := y.magnitude_lt
      unfold key at keyLess next ⊢
      unfold magnitudeLimit
      split at keyLess <;> split at keyLess <;> split at next <;> split <;> simp_all <;> omega
    obtain ⟨between, betweenKey⟩ := exists_key inRange
    have above := value_lt_of_key_lt (show x.key < between.key by omega)
    have below := value_lt_of_key_lt (show between.key < y.key by omega)
    have least := near.least between
    rw [abs_of_nonpos (by linarith : x.value - exact ≤ 0)] at least
    rcases abs_cases (between.value - exact) with ⟨distance, _⟩ | ⟨distance, _⟩ <;> linarith

/-- A number has one nearest double, up to the sign of zero. -/
theorem IsNearest.unique {x y : Double} {exact : ℚ} (near : x.IsNearest exact)
    (otherNear : y.IsNearest exact) : x.value = y.value :=
  le_antisymm (le_of_not_gt (otherNear.not_lt near)) (le_of_not_gt (near.not_lt otherNear))

/-! ## Rounding whole numbers -/

/-- The rounded quotient is at most half a unit away, and even if it is just half of one. -/
theorem roundQuotient_spec (numerator : Nat) {denominator : Nat} (positive : 0 < denominator) :
    2 * (roundQuotient numerator denominator * denominator) ≤ 2 * numerator + denominator ∧
      2 * numerator ≤ 2 * (roundQuotient numerator denominator * denominator) + denominator ∧
      (roundQuotient numerator denominator % 2 = 0 ∨
        2 * (roundQuotient numerator denominator * denominator) < 2 * numerator + denominator ∧
        2 * numerator < 2 * (roundQuotient numerator denominator * denominator) + denominator) := by
  have split := Nat.div_add_mod' numerator denominator
  have rest := Nat.mod_lt numerator positive
  have next := Nat.succ_mul (numerator / denominator) denominator
  simp only [roundQuotient]
  split
  · omega
  · split
    · rw [next]
      omega
    · rcases Nat.mod_two_eq_zero_or_one (numerator / denominator) with even | odd
      · rw [even, Nat.add_zero]
        omega
      · rw [odd, next]
        omega

/-- No other multiple is nearer than the rounded quotient, and only an even one has another
that is as near. -/
theorem natAbs_roundQuotient_le (numerator : Nat) {denominator : Nat}
    (positive : 0 < denominator) (count : Nat) :
    ((roundQuotient numerator denominator * denominator : Nat) - (numerator : Int)).natAbs ≤
        ((count * denominator : Nat) - (numerator : Int)).natAbs ∧
      (((count * denominator : Nat) - (numerator : Int)).natAbs =
          ((roundQuotient numerator denominator * denominator : Nat) - (numerator : Int)).natAbs →
        count ≠ roundQuotient numerator denominator →
          roundQuotient numerator denominator % 2 = 0) := by
  have near := roundQuotient_spec numerator positive
  generalize roundQuotient numerator denominator = rounded at near ⊢
  rcases Nat.lt_trichotomy count rounded with less | same | greater
  · have apart := Nat.mul_le_mul_right denominator (show count + 1 ≤ rounded from less)
    rw [Nat.succ_mul] at apart
    omega
  · rw [same]
    exact ⟨le_rfl, fun _ different => absurd rfl different⟩
  · have apart := Nat.mul_le_mul_right denominator (show rounded + 1 ≤ count from greater)
    rw [Nat.succ_mul] at apart
    omega

/-- A rounded significand that reaches the next power of two makes the same value with the
next exponent. -/
theorem units_of_magnitude {x : Double} {scale rounded : Nat}
    (shape : x.magnitude = scale * fractionCount + rounded)
    (normal : scale = 0 ∨ fractionCount ≤ rounded) (small : rounded ≤ 2 * fractionCount) :
    x.units = rounded * twoTo scale ∧ (rounded % 2 = 0 → x.significand % 2 = 0) := by
  have cases := x.significand_cases
  by_cases carried : rounded = 2 * fractionCount
  · have fraction : x.significand = fractionCount ∧ x.binade = scale + 1 := by
      simp only [fractionCount] at cases shape carried ⊢
      omega
    constructor
    · rw [units, fraction.1, fraction.2, carried, twoTo_succ]
      ring
    · rw [fraction.1]
      intro _
      rfl
  · have fraction : x.significand = rounded ∧ x.binade = scale := by
      simp only [fractionCount] at cases shape normal small carried ⊢
      omega
    rw [units, fraction.1, fraction.2]
    exact ⟨rfl, id⟩

theorem log2_lt {number exponent : Nat} (positive : 0 < exponent)
    (less : number < twoTo exponent) : number.log2 < exponent := by
  by_cases isZero : number = 0
  · rwa [isZero, Nat.log2_zero]
  · exact (Nat.log2_lt isZero).mpr less

/-- The scale at which a number is rounded leaves 53 bits, or is the least one. -/
theorem scale_spec (numerator : Nat) :
    numerator < 2 * fractionCount * twoTo (numerator.log2 - 52) ∧
      (numerator.log2 - 52 = 0 ∨
        fractionCount * twoTo (numerator.log2 - 52) ≤ numerator) := by
  have asPower : fractionCount = twoTo 52 := by decide
  have double : 2 * fractionCount = twoTo 53 := by decide
  rw [double, asPower, ← twoTo_add, ← twoTo_add]
  have upper : numerator < twoTo (numerator.log2 + 1) := Nat.lt_log2_self
  constructor
  · exact Nat.lt_of_lt_of_le upper (twoTo_le_twoTo (by omega))
  · by_cases small : numerator.log2 ≤ 52
    · exact Or.inl (by omega)
    · have nonzero : numerator ≠ 0 := by
        intro isZero
        rw [isZero, Nat.log2_zero] at small
        omega
      have exponents : 52 + (numerator.log2 - 52) = numerator.log2 := by omega
      rw [exponents]
      exact Or.inr (Nat.log2_self_le nonzero)

theorem roundQuotient_bounds (numerator : Nat) :
    let scale := numerator.log2 - 52
    let rounded := roundQuotient numerator (twoTo scale)
    (scale = 0 ∨ fractionCount ≤ rounded) ∧ rounded ≤ 2 * fractionCount := by
  intro scale rounded
  have positive := twoTo_pos scale
  have near := roundQuotient_spec numerator positive
  obtain ⟨upper, lower⟩ := scale_spec numerator
  constructor
  · refine lower.imp_right fun large => ?_
    by_contra less
    have apart := Nat.mul_le_mul_right (twoTo scale) (show rounded + 1 ≤ fractionCount by omega)
    rw [Nat.succ_mul] at apart
    simp only [scale, rounded] at near apart positive large
    omega
  · by_contra greater
    have apart := Nat.mul_le_mul_right (twoTo scale)
      (show 2 * fractionCount + 1 ≤ rounded by omega)
    rw [Nat.succ_mul] at apart
    simp only [scale, rounded] at near apart positive upper
    omega

/-- A double is a multiple of the scale at which a number is rounded, or lies below all
numbers that are rounded at this scale. -/
theorem units_cases (y : Double) (scale : Nat) :
    (∃ count, y.units = count * twoTo scale) ∨
      0 < scale ∧ y.units < fractionCount * twoTo scale := by
  rcases Nat.lt_or_ge y.binade scale with less | atLeast
  · refine Or.inr ⟨by omega, ?_⟩
    have bounded : y.significand < 2 * fractionCount := by
      have cases := y.significand_cases
      simp only [fractionCount] at cases ⊢
      omega
    calc
      y.units < 2 * fractionCount * twoTo y.binade :=
        Nat.mul_lt_mul_of_pos_right bounded (twoTo_pos _)
      _ = fractionCount * twoTo (y.binade + 1) := by
        rw [twoTo_succ]
        ring
      _ ≤ fractionCount * twoTo scale :=
        Nat.mul_le_mul_left _ (twoTo_le_twoTo less)
  · refine Or.inl ⟨y.significand * twoTo (y.binade - scale), ?_⟩
    rw [units, Nat.mul_assoc, ← twoTo_add, Nat.sub_add_cancel atLeast]

/-- Rounding a number of units gives the nearest absolute value that a double has. -/
theorem natAbs_units_le {x : Double} {numerator : Nat}
    (rounds : x.magnitude = nearestUnits numerator 1) (y : Double) :
    ((x.units : Int) - numerator).natAbs ≤ ((y.units : Int) - numerator).natAbs ∧
      (((y.units : Int) - numerator).natAbs = ((x.units : Int) - numerator).natAbs →
        y.units ≠ x.units → x.significand % 2 = 0) := by
  simp only [nearestUnits, Nat.div_one, Nat.one_mul] at rounds
  obtain ⟨normal, small⟩ := roundQuotient_bounds numerator
  obtain ⟨shape, even⟩ := units_of_magnitude rounds normal small
  have positive := twoTo_pos (numerator.log2 - 52)
  have nearest := natAbs_roundQuotient_le numerator positive
  rw [shape]
  rcases y.units_cases (numerator.log2 - 52) with ⟨count, multiple⟩ | ⟨scaled, less⟩
  · rw [multiple]
    refine ⟨(nearest count).1, ?_⟩
    intro tie different
    apply even
    apply (nearest count).2 tie
    rintro rfl
    exact different rfl
  · have large := (scale_spec numerator).2.resolve_left (by omega)
    have bound := (nearest fractionCount).1
    constructor
    · omega
    · intro tie _
      omega

/-- A multiple of the scale at which it is rounded keeps its value. -/
theorem units_eq_of_dvd {x : Double} {numerator : Nat}
    (rounds : x.magnitude = nearestUnits numerator 1)
    (divides : twoTo (numerator.log2 - 52) ∣ numerator) : x.units = numerator := by
  simp only [nearestUnits, Nat.div_one, Nat.one_mul] at rounds
  obtain ⟨normal, small⟩ := roundQuotient_bounds numerator
  obtain ⟨shape, _⟩ := units_of_magnitude rounds normal small
  obtain ⟨count, multiple⟩ := divides
  have nearest := (natAbs_roundQuotient_le numerator (twoTo_pos (numerator.log2 - 52)) count).1
  rw [Nat.mul_comm] at multiple
  rw [← shape, ← multiple] at nearest
  omega

theorem log2_mul_twoTo_lt {number bits : Nat} (positive : 0 < bits) (less : number < twoTo bits)
    (exponent : Nat) : (number * twoTo exponent).log2 < bits + exponent := by
  apply log2_lt (by omega)
  rw [twoTo_add]
  exact Nat.mul_lt_mul_of_pos_right less (twoTo_pos exponent)

/-- No whole number of 64 bits is too large for a double. -/
theorem magnitude_ofInt {number : Int} (small : number.natAbs < twoTo 65) :
    (ofInt number).magnitude = nearestUnits (number.natAbs * unitsPerOne) 1 := by
  have fits : nearestUnits (number.natAbs * unitsPerOne) 1 < magnitudeLimit := by
    have bounds := (roundQuotient_bounds (number.natAbs * unitsPerOne)).2
    have scale := log2_mul_twoTo_lt (by decide) small 1074
    rw [← unitsPerOne] at scale
    simp only [nearestUnits, Nat.div_one, Nat.one_mul, magnitudeLimit]
    generalize roundQuotient _ _ = rounded at bounds ⊢
    generalize (number.natAbs * unitsPerOne).log2 = logarithm at scale ⊢
    simp only [fractionCount] at bounds ⊢
    omega
  simp only [ofInt, ofQuotient?, dif_pos fits]
  rfl

theorem signedUnits_ofInt (number : Int) :
    (ofInt number).signedUnits =
      if number < 0 then -((ofInt number).units : Int) else (ofInt number).units := by
  have sign : (ofInt number).negative = decide (number < 0) := rfl
  rw [signedUnits, sign]
  simp only [decide_eq_true_eq]

/-- The double with the nearest absolute value and the sign of a number is nearest to it. -/
theorem natAbs_signed_le {x : Double} {number : Int} {one : Nat} (positive : 0 < one)
    (sign : x.signedUnits = if number < 0 then -(x.units : Int) else x.units)
    (nearest : ∀ y : Double,
      ((x.units : Int) - (number.natAbs * one : Nat)).natAbs ≤
          ((y.units : Int) - (number.natAbs * one : Nat)).natAbs ∧
        (((y.units : Int) - (number.natAbs * one : Nat)).natAbs =
            ((x.units : Int) - (number.natAbs * one : Nat)).natAbs →
          y.units ≠ x.units → x.significand % 2 = 0))
    (y : Double) :
    (x.signedUnits - number * one).natAbs ≤ (y.signedUnits - number * one).natAbs ∧
      ((y.signedUnits - number * one).natAbs = (x.signedUnits - number * one).natAbs →
        y.signedUnits ≠ x.signedUnits → x.significand % 2 = 0) := by
  have nearUnits := nearest y
  have nearZero := nearest zero
  have noUnits : zero.units = 0 := by decide
  have absolute : (number * one).natAbs = number.natAbs * one := by
    rw [Int.natAbs_mul, Int.natAbs_natCast]
  have below : number < 0 → number * one < 0 := fun negative =>
    Int.mul_neg_of_neg_of_pos negative (Int.natCast_pos.mpr positive)
  have above : 0 ≤ number → 0 ≤ number * one := fun notNegative =>
    Int.mul_nonneg notNegative (Int.natCast_nonneg one)
  rw [noUnits] at nearZero
  rw [sign, signedUnits]
  generalize number.natAbs * one = numerator at absolute nearUnits nearZero
  generalize number * (one : Int) = exact at absolute below above ⊢
  rcases lt_or_ge number 0 with negative | notNegative
  · have exactBelow := below negative
    rw [if_pos negative]
    split <;> omega
  · have exactAbove := above notNegative
    rw [if_neg (by omega)]
    split <;> omega

/-- The double of a whole number is nearest to it, in units. -/
theorem natAbs_signedUnits_le {number : Int} (small : number.natAbs < twoTo 65) (y : Double) :
    ((ofInt number).signedUnits - number * unitsPerOne).natAbs ≤
        (y.signedUnits - number * unitsPerOne).natAbs ∧
      ((y.signedUnits - number * unitsPerOne).natAbs =
          ((ofInt number).signedUnits - number * unitsPerOne).natAbs →
        y.signedUnits ≠ (ofInt number).signedUnits →
          (ofInt number).significand % 2 = 0) :=
  natAbs_signed_le unitsPerOne_pos (signedUnits_ofInt number)
    (natAbs_units_le (magnitude_ofInt small)) y

theorem abs_value_sub (x : Double) (number : Int) :
    |x.value - number| = ((x.signedUnits - number * unitsPerOne).natAbs : ℚ) / unitsPerOne := by
  have scaled : x.value - number =
      ((x.signedUnits - number * unitsPerOne : Int) : ℚ) / unitsPerOne := by
    rw [value, eq_div_iff unitsPerOne_cast_pos.ne', sub_mul,
      div_mul_cancel₀ _ unitsPerOne_cast_pos.ne']
    push_cast
    rfl
  rw [scaled, abs_div, abs_of_pos unitsPerOne_cast_pos, Nat.cast_natAbs, Int.cast_abs]

/-- The double of a whole number of 64 bits is the one nearest to it. -/
theorem isNearest_ofInt {number : Int} (small : number.natAbs < twoTo 65) :
    (ofInt number).IsNearest number := by
  constructor
  · intro y
    rw [abs_value_sub, abs_value_sub]
    exact div_le_div_of_nonneg_right
      (Nat.cast_le.mpr (natAbs_signedUnits_le small y).1) unitsPerOne_cast_pos.le
  · intro y tie different
    rw [abs_value_sub, abs_value_sub, div_left_inj' unitsPerOne_cast_pos.ne', Nat.cast_inj] at tie
    apply (natAbs_signedUnits_le small y).2 tie
    intro same
    exact different (by rw [value, value, same])

/-- The scale at which a number of at most 53 bits is rounded divides it, shifted or not. -/
theorem twoTo_scale_dvd {bits : Nat} (few : bits < twoTo 53) (exponent : Nat) :
    twoTo ((bits * twoTo exponent).log2 - 52) ∣ bits * twoTo exponent := by
  have scale := log2_mul_twoTo_lt (by decide) few exponent
  exact Dvd.dvd.mul_left (Nat.pow_dvd_pow 2 (by omega)) bits

theorem signedUnits_eq_mul {x : Double} {number : Int} {one : Nat}
    (sign : x.signedUnits = if number < 0 then -(x.units : Int) else x.units)
    (exact : x.units = number.natAbs * one) : x.signedUnits = number * one := by
  rw [sign, exact]
  push_cast
  split
  · rename_i negative
    rw [abs_of_neg negative, neg_mul, neg_neg]
  · rename_i notNegative
    rw [abs_of_nonneg (not_lt.mp notNegative)]

/-- Whole numbers of at most 53 bits, and their multiples by powers of two, are doubles. -/
theorem value_ofInt {number : Int} (small : number.natAbs < twoTo 65) {bits exponent : Nat}
    (shape : number.natAbs = bits * twoTo exponent) (few : bits < twoTo 53) :
    (ofInt number).value = number := by
  have scaled : number.natAbs * unitsPerOne = bits * twoTo (exponent + 1074) := by
    rw [shape, unitsPerOne, Nat.mul_assoc, ← twoTo_add]
  have divides := twoTo_scale_dvd few (exponent + 1074)
  rw [← scaled] at divides
  have unitsExact := units_eq_of_dvd (magnitude_ofInt small) divides
  have exact := abs_value_sub (ofInt number) number
  rw [signedUnits_eq_mul (signedUnits_ofInt number) unitsExact, sub_self, Int.natAbs_zero,
    Nat.cast_zero, zero_div] at exact
  exact sub_eq_zero.mp (abs_eq_zero.mp exact)

end Double

end RecordGraph
