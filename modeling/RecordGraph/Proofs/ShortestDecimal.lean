import Mathlib.Tactic.Ring
import RecordGraph.Number.Shortest

/-!
# Decimals that round to a double

The shortest decimal of a double lies in its rounding interval, and the intervals
of two doubles of different absolute value share no point: consecutive doubles
meet in one end, which only the even one of them owns.  All points are counted in
steps of `10 ^ (-1074)`, of which every decimal used here is a whole number.
-/

namespace RecordGraph

theorem tenTo_pos (exponent : Nat) : 0 < tenTo exponent := Nat.pow_pos (by decide)

theorem twoTo_pos (exponent : Nat) : 0 < twoTo exponent := Nat.pow_pos (by decide)

theorem tenTo_add (first second : Nat) : tenTo (first + second) = tenTo first * tenTo second :=
  Nat.pow_add 10 first second

theorem tenTo_succ (exponent : Nat) : tenTo (exponent + 1) = tenTo exponent * 10 :=
  Nat.pow_succ 10 exponent

theorem twoTo_succ (exponent : Nat) : twoTo (exponent + 1) = twoTo exponent * 2 :=
  Nat.pow_succ 2 exponent

theorem twoTo_add (first second : Nat) : twoTo (first + second) = twoTo first * twoTo second :=
  Nat.pow_add 2 first second

theorem twoTo_le_twoTo {first second : Nat} (atMost : first ≤ second) :
    twoTo first ≤ twoTo second :=
  Nat.pow_le_pow_right (by decide) atMost

theorem tenTo_eq_mul (exponent : Nat) : tenTo exponent = Nat.pow 5 exponent * twoTo exponent :=
  Nat.mul_pow 5 2 exponent

namespace Double

/-! ## Ends of rounding intervals -/

/-- The lower end of the rounding interval, in quarters of the least unit. -/
def lowEnd (x : Double) : Nat :=
  4 * x.units -
    if x.significand = fractionCount ∧ 0 < x.binade then twoTo x.binade else 2 * twoTo x.binade

/-- The upper end of the rounding interval, in quarters of the least unit. -/
def highEnd (x : Double) : Nat := 4 * x.units + 2 * twoTo x.binade

/-- A number of steps of `10 ^ (-1074)` rounds to the double. -/
def RoundsFrom (x : Double) (steps : Nat) : Prop :=
  if x.significand % 2 = 0 then
    x.lowEnd * tenTo 1074 ≤ steps * intervalDenominator ∧
      steps * intervalDenominator ≤ x.highEnd * tenTo 1074
  else
    x.lowEnd * tenTo 1074 < steps * intervalDenominator ∧
      steps * intervalDenominator < x.highEnd * tenTo 1074

theorem lowEnd_lt_highEnd (x : Double) : x.lowEnd < x.highEnd := by
  have positive := twoTo_pos x.binade
  unfold lowEnd highEnd
  omega

theorem significand_cases (x : Double) :
    (x.magnitude < fractionCount ∧ x.significand = x.magnitude ∧ x.binade = 0) ∨
      (fractionCount ≤ x.magnitude ∧
        x.significand = x.magnitude % fractionCount + fractionCount ∧
        x.binade = x.magnitude / fractionCount - 1) := by
  by_cases small : x.magnitude / fractionCount = 0
  · refine Or.inl ⟨?_, if_pos small, ?_⟩
    · simp only [fractionCount] at small ⊢
      omega
    · rw [binade, small]
  · refine Or.inr ⟨?_, if_neg small, rfl⟩
    simp only [fractionCount] at small ⊢
    omega

/-- The scale of a double and of the next one: either the fraction goes on in the
same binade, or it starts anew in the next. -/
theorem significand_binade_of_next {x y : Double} (next : y.magnitude = x.magnitude + 1) :
    (y.significand = x.significand + 1 ∧ y.binade = x.binade ∧
        ¬ (y.significand = fractionCount ∧ 0 < y.binade)) ∨
      (y.significand = fractionCount ∧ y.binade = x.binade + 1 ∧
        x.significand + 1 = 2 * fractionCount) := by
  have xScale := x.significand_cases
  have yScale := y.significand_cases
  simp only [fractionCount] at xScale yScale ⊢
  omega

theorem units_of_next {x y : Double} (next : y.magnitude = x.magnitude + 1) :
    y.units = x.units + twoTo x.binade := by
  unfold units
  rcases significand_binade_of_next next with ⟨fraction, scale, _⟩ | ⟨fraction, scale, carried⟩
  · rw [fraction, scale]
    ring
  · calc
      y.significand * twoTo y.binade = (2 * fractionCount) * twoTo x.binade := by
        rw [fraction, scale, twoTo_succ]
        ring
      _ = (x.significand + 1) * twoTo x.binade := by rw [carried]
      _ = x.significand * twoTo x.binade + twoTo x.binade := by ring

/-- The interval of a double ends where that of the next one begins. -/
theorem lowEnd_of_next {x y : Double} (next : y.magnitude = x.magnitude + 1) :
    y.lowEnd = x.highEnd := by
  have positive := twoTo_pos x.binade
  unfold lowEnd highEnd
  rw [units_of_next next]
  rcases significand_binade_of_next next with ⟨_, scale, notFirst⟩ | ⟨fraction, scale, _⟩
  · rw [if_neg notFirst, scale]
    omega
  · rw [if_pos ⟨fraction, by omega⟩, scale, twoTo_succ]
    omega

theorem significand_parity_of_next {x y : Double} (next : y.magnitude = x.magnitude + 1) :
    y.significand % 2 ≠ x.significand % 2 := by
  rcases significand_binade_of_next next with ⟨fraction, _, _⟩ | ⟨fraction, _, carried⟩
  · omega
  · simp only [fractionCount] at fraction carried
    omega

theorem highEnd_le_lowEnd (distance : Nat) :
    ∀ {x y : Double}, y.magnitude = x.magnitude + 1 + distance →
      x.highEnd ≤ y.lowEnd ∧ (0 < distance → x.highEnd < y.lowEnd) := by
  induction distance with
  | zero =>
      intro x y next
      have equality := lowEnd_of_next next
      exact ⟨by omega, fun positive => absurd positive (by omega)⟩
  | succ distance inductionHypothesis =>
      intro x y further
      have inRange : x.magnitude + 1 < 0x7FF0000000000000 := by
        have := y.magnitude_lt
        omega
      let between : Double := ⟨false, x.magnitude + 1, inRange⟩
      have first : between.lowEnd = x.highEnd := lowEnd_of_next rfl
      have proper := between.lowEnd_lt_highEnd
      have later : between.highEnd ≤ y.lowEnd :=
        (inductionHypothesis (by simp only [between]; omega)).1
      exact ⟨by omega, fun _ => by omega⟩

/-- No point rounds to a double and to one of greater absolute value. -/
theorem not_roundsFrom_of_lt {x y : Double} (less : x.magnitude < y.magnitude) {steps : Nat}
    (toFirst : x.RoundsFrom steps) : ¬ y.RoundsFrom steps := by
  intro toSecond
  obtain ⟨distance, shape⟩ : ∃ distance, y.magnitude = x.magnitude + 1 + distance :=
    ⟨y.magnitude - x.magnitude - 1, by omega⟩
  obtain ⟨ordered, separated⟩ := highEnd_le_lowEnd distance shape
  have upper : steps * intervalDenominator ≤ x.highEnd * tenTo 1074 := by
    unfold RoundsFrom at toFirst
    split at toFirst
    · exact toFirst.2
    · exact Nat.le_of_lt toFirst.2
  have lower : y.lowEnd * tenTo 1074 ≤ steps * intervalDenominator := by
    unfold RoundsFrom at toSecond
    split at toSecond
    · exact toSecond.1
    · exact Nat.le_of_lt toSecond.1
  have scaledOrder : x.highEnd * tenTo 1074 ≤ y.lowEnd * tenTo 1074 :=
    Nat.mul_le_mul_right _ ordered
  rcases Nat.eq_zero_or_pos distance with rfl | positive
  · -- Both own the common end, but only the even one of the two may.
    have parity := significand_parity_of_next shape
    unfold RoundsFrom at toFirst toSecond
    split at toFirst <;> split at toSecond <;> omega
  · have strictlyScaled : x.highEnd * tenTo 1074 < y.lowEnd * tenTo 1074 :=
      Nat.mul_lt_mul_of_pos_right (separated positive) (tenTo_pos 1074)
    omega

/-- A point rounds to one absolute value only. -/
theorem magnitude_eq_of_roundsFrom {x y : Double} {steps : Nat} (toFirst : x.RoundsFrom steps)
    (toSecond : y.RoundsFrom steps) : x.magnitude = y.magnitude := by
  rcases Nat.lt_trichotomy x.magnitude y.magnitude with less | equality | greater
  · exact absurd toSecond (not_roundsFrom_of_lt less toFirst)
  · exact equality
  · exact absurd toFirst (not_roundsFrom_of_lt greater toSecond)

end Double

/-! ## The shortest decimal rounds to its double -/

/-- A decimal as a number of steps of `10 ^ (-1074)`. -/
def Decimal.steps (decimal : Decimal) : Nat :=
  decimal.coefficient * tenTo (decimal.exponent + 1074).toNat

theorem Decimal.steps_mk (coefficient : Nat) (exponent : Int) :
    Decimal.steps ⟨coefficient, exponent⟩ = coefficient * tenTo (exponent + 1074).toNat := rfl

/-- A decimal is a whole number of steps of `10 ^ (-1074)`. -/
def Decimal.Whole (decimal : Decimal) : Prop := -1074 ≤ decimal.exponent

theorem Decimal.stripZeros_spec (fuel : Nat) {decimal : Decimal} (whole : decimal.Whole) :
    (decimal.stripZeros fuel).Whole ∧ (decimal.stripZeros fuel).steps = decimal.steps := by
  induction fuel generalizing decimal with
  | zero => exact ⟨whole, rfl⟩
  | succ fuel inductionHypothesis =>
      unfold Decimal.stripZeros
      split
      · rename_i divisible
        have shorterWhole : Decimal.Whole ⟨decimal.coefficient / 10, decimal.exponent + 1⟩ := by
          simp only [Decimal.Whole] at whole ⊢
          omega
        obtain ⟨resultWhole, resultSteps⟩ := inductionHypothesis shorterWhole
        refine ⟨resultWhole, resultSteps.trans ?_⟩
        have exponents : (decimal.exponent + 1 + 1074).toNat =
            (decimal.exponent + 1074).toNat + 1 := by
          simp only [Decimal.Whole] at whole
          omega
        have coefficient : decimal.coefficient / 10 * 10 = decimal.coefficient := by omega
        simp only [Decimal.steps, exponents, tenTo_succ]
        calc
          decimal.coefficient / 10 * (tenTo (decimal.exponent + 1074).toNat * 10) =
              decimal.coefficient / 10 * 10 * tenTo (decimal.exponent + 1074).toNat := by ring
          _ = decimal.coefficient * tenTo (decimal.exponent + 1074).toNat := by rw [coefficient]
      · exact ⟨whole, rfl⟩

namespace Double

theorem RoundingInterval.contains_of_choose? {interval : RoundingInterval}
    {place lower coefficient : Nat} (chosen : interval.choose? place lower = some coefficient) :
    interval.contains (coefficient * tenTo place) = true := by
  unfold RoundingInterval.choose? at chosen
  simp only at chosen
  have evenNeighbour : lower + lower % 2 = lower ∨ lower + lower % 2 = lower + 1 := by omega
  split at chosen
  · rename_i bothFit
    rw [Bool.and_eq_true] at bothFit
    split at chosen
    · obtain rfl := Option.some.inj chosen
      exact bothFit.1
    · split at chosen
      · obtain rfl := Option.some.inj chosen
        exact bothFit.2
      · obtain rfl := Option.some.inj chosen
        rcases evenNeighbour with isLower | isUpper
        · rw [isLower]
          exact bothFit.1
        · rw [isUpper]
          exact bothFit.2
  · split at chosen
    · obtain rfl := Option.some.inj chosen
      assumption
    · split at chosen
      · obtain rfl := Option.some.inj chosen
        assumption
      · simp at chosen

/-- A grid point inside the interval rounds to the double. -/
theorem roundsFrom_of_contains {x : Double} {point : Nat}
    (inside : x.roundingInterval.contains point = true) :
    x.RoundsFrom (point * tenTo 733) := by
  have scale : tenTo 1074 = gridScale * tenTo 733 := by
    rw [gridScale, ← tenTo_add]
  have low : x.roundingInterval.low * tenTo 733 = x.lowEnd * tenTo 1074 := by
    rw [scale]
    simp only [roundingInterval, lowEnd]
    ring
  have high : x.roundingInterval.high * tenTo 733 = x.highEnd * tenTo 1074 := by
    rw [scale]
    simp only [roundingInterval, highEnd]
    ring
  have numerator : point * tenTo 733 * intervalDenominator =
      point * intervalDenominator * tenTo 733 := by ring
  unfold RoundsFrom
  rw [← low, ← high, numerator]
  unfold RoundingInterval.contains at inside
  have closed : x.roundingInterval.closed = (x.significand % 2 == 0) := rfl
  rw [closed] at inside
  have positive := tenTo_pos 733
  split
  · rename_i even
    simp only [even, BEq.rfl, if_true, Bool.and_eq_true, decide_eq_true_eq] at inside
    exact ⟨Nat.mul_le_mul_right _ inside.1, Nat.mul_le_mul_right _ inside.2⟩
  · rename_i odd
    simp only [beq_iff_eq, odd, if_false, Bool.and_eq_true, decide_eq_true_eq] at inside
    exact ⟨Nat.mul_lt_mul_of_pos_right inside.1 positive,
      Nat.mul_lt_mul_of_pos_right inside.2 positive⟩

theorem roundsFrom_decimalOfWidth? {x : Double} {count : Nat} {decimal : Decimal}
    (found : x.decimalOfWidth? count = some decimal) :
    decimal.Whole ∧ x.RoundsFrom decimal.steps := by
  unfold decimalOfWidth? at found
  simp only [Option.map_eq_some_iff] at found
  obtain ⟨coefficient, chosen, rfl⟩ := found
  generalize (Decimal.digits _).length - count = place at chosen ⊢
  have rounds := roundsFrom_of_contains (RoundingInterval.contains_of_choose? chosen)
  have exponent : ((place : Int) - 341 + 1074).toNat = place + 733 := by omega
  constructor
  · simp only [Decimal.Whole]
    omega
  · simp only [Decimal.steps, exponent, tenTo_add, ← Nat.mul_assoc]
    exact rounds

theorem fives_mul_twos {units exponent coefficient : Nat}
    (fives : coefficient = units * Nat.pow 5 exponent) :
    coefficient * (4 * twoTo exponent) = 4 * units * tenTo exponent := by
  rw [fives, tenTo_eq_mul exponent]
  ring

theorem exactDecimal_eq (x : Double) {exponent : Nat} (literal : 1074 = exponent) :
    x.exactDecimal = ⟨x.units * Nat.pow 5 exponent, -1074⟩ := by
  unfold exactDecimal
  rw [literal]

theorem roundsFrom_exactDecimal (x : Double) :
    x.exactDecimal.Whole ∧ x.RoundsFrom x.exactDecimal.steps := by
  have start : tenTo ((-1074 : Int) + 1074).toNat = 1 := rfl
  have center : x.exactDecimal.steps * intervalDenominator = 4 * x.units * tenTo 1074 := by
    generalize literal : 1074 = exponent
    rw [x.exactDecimal_eq literal, Decimal.steps_mk, start, Nat.mul_one, intervalDenominator,
      unitsPerOne, literal]
    exact fives_mul_twos rfl
  have positive := twoTo_pos x.binade
  have below : x.lowEnd * tenTo 1074 ≤ 4 * x.units * tenTo 1074 :=
    Nat.mul_le_mul_right _ (Nat.sub_le _ _)
  have above : 4 * x.units * tenTo 1074 < x.highEnd * tenTo 1074 :=
    Nat.mul_lt_mul_of_pos_right (by unfold highEnd; omega) (tenTo_pos 1074)
  constructor
  · unfold Decimal.Whole exactDecimal
    exact Int.le_refl _
  · unfold RoundsFrom
    rw [center]
    split
    · exact ⟨below, Nat.le_of_lt above⟩
    · rename_i odd
      have unitsPositive : 0 < x.units := Nat.mul_pos (by omega) positive
      refine ⟨Nat.mul_lt_mul_of_pos_right ?_ (tenTo_pos 1074), above⟩
      unfold lowEnd
      split <;> omega

/-- The shortest decimal of a double rounds to it. -/
theorem roundsFrom_shortest (x : Double) : x.shortest.Whole ∧ x.RoundsFrom x.shortest.steps := by
  unfold shortest
  simp only
  have chosen : ∀ decimal : Decimal,
      ((List.range' 1 mostDigits).findSome? x.decimalOfWidth?).getD x.exactDecimal = decimal →
      decimal.Whole ∧ x.RoundsFrom decimal.steps := by
    intro decimal picked
    cases search : (List.range' 1 mostDigits).findSome? x.decimalOfWidth? with
    | none =>
        rw [search, Option.getD_none] at picked
        rw [← picked]
        exact x.roundsFrom_exactDecimal
    | some found =>
        rw [search, Option.getD_some] at picked
        obtain ⟨count, _, foundHere⟩ := List.exists_of_findSome?_eq_some search
        rw [← picked]
        exact roundsFrom_decimalOfWidth? foundHere
  obtain ⟨whole, rounds⟩ := chosen _ rfl
  obtain ⟨strippedWhole, strippedSteps⟩ := Decimal.stripZeros_spec
    (Decimal.digits (((List.range' 1 mostDigits).findSome? x.decimalOfWidth?).getD
      x.exactDecimal).coefficient).length whole
  rw [strippedSteps]
  exact ⟨strippedWhole, rounds⟩

end Double

end RecordGraph
