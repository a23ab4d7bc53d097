import Mathlib.Data.List.Basic
import RecordGraph.Json.Lexer
import RecordGraph.Proofs.ShortestDecimal

/-!
# Different numbers have different texts

The text of a double spells a decimal that rounds to it, and two decimals that one
text spells are equal.  A double always shows a point or an exponent, which no
whole number does.
-/

namespace RecordGraph

/-! ## Digits and signs -/

theorem toDigits_injective {first second : Nat}
    (sameDigits : Nat.toDigits 10 first = Nat.toDigits 10 second) : first = second := by
  have values := congrArg (fun digits => Nat.ofDigitChars 10 digits 0) sameDigits
  simpa using values

theorem isDigit_of_mem_toDigits {value : Nat} {char : Char}
    (member : char ∈ Nat.toDigits 10 value) : char.isDigit = true :=
  Nat.isDigit_of_mem_toDigits (by decide) (by decide) member

/-- A sign in front of texts that start with none can be told apart from them. -/
theorem signed_injective {firstNegative secondNegative : Prop} [Decidable firstNegative]
    [Decidable secondNegative] {first second : List Char}
    (firstUnsigned : first.head? ≠ some '-') (secondUnsigned : second.head? ≠ some '-')
    (sameText : (if firstNegative then ['-'] else []) ++ first =
      (if secondNegative then ['-'] else []) ++ second) :
    (firstNegative ↔ secondNegative) ∧ first = second := by
  have heads := congrArg List.head? sameText
  by_cases firstSign : firstNegative <;> by_cases secondSign : secondNegative
  · simp only [firstSign, secondSign, if_true] at sameText
    exact ⟨iff_of_true firstSign secondSign, List.append_cancel_left sameText⟩
  · simp only [firstSign, secondSign, if_true, if_false] at heads
    exact absurd heads.symm secondUnsigned
  · simp only [firstSign, secondSign, if_true, if_false] at heads
    exact absurd heads firstUnsigned
  · simp only [firstSign, secondSign, if_false] at sameText
    exact ⟨iff_of_false firstSign secondSign, sameText⟩

theorem toDigits_unsigned (value : Nat) : (Nat.toDigits 10 value).head? ≠ some '-' := by
  intro signed
  have digit := isDigit_of_mem_toDigits (List.mem_of_head? signed)
  exact absurd digit (by decide)

theorem integerText_injective {first second : Int}
    (sameText : integerText first = integerText second) : first = second := by
  unfold integerText at sameText
  obtain ⟨sameSign, sameDigits⟩ := signed_injective (toDigits_unsigned first.natAbs)
    (toDigits_unsigned second.natAbs) sameText
  have sameSize := toDigits_injective sameDigits
  omega

/-! ## Scientific texts -/

/-- The digits of a scientific text, with a point after the first one. -/
def pointed (digits : List Char) : List Char :=
  digits.take 1 ++ (if (digits.drop 1).isEmpty then [] else '.' :: digits.drop 1)

theorem exponentText_eq (digits : List Char) (exponent : Int) :
    exponentText digits exponent =
      pointed digits ++
        'e' :: ((if exponent < 0 then ['-'] else ['+']) ++ Nat.toDigits 10 exponent.natAbs) := by
  simp [exponentText, pointed, List.append_assoc]

theorem mem_pointed {digits : List Char} {char : Char} (member : char ∈ pointed digits) :
    char ∈ digits ∨ char = '.' := by
  unfold pointed at member
  rcases List.mem_append.mp member with inFirst | inRest
  · exact Or.inl (List.mem_of_mem_take inFirst)
  · split at inRest
    · simp at inRest
    · rcases List.mem_cons.mp inRest with isPoint | inFraction
      · exact Or.inr isPoint
      · exact Or.inl (List.mem_of_mem_drop inFraction)

theorem filter_pointed {digits : List Char} (allDigits : ∀ char ∈ digits, char.isDigit = true) :
    (pointed digits).filter Char.isDigit = digits := by
  have kept : (digits.take 1).filter Char.isDigit ++ (digits.drop 1).filter Char.isDigit =
      digits := by
    rw [← List.filter_append, List.take_append_drop]
    exact List.filter_eq_self.mpr allDigits
  unfold pointed
  rw [List.filter_append]
  split
  · rename_i noFraction
    simpa [List.isEmpty_iff.mp noFraction] using kept
  · rw [List.filter_cons_of_neg (by decide)]
    exact kept

theorem exponentText_injective {firstDigits secondDigits : List Char}
    {firstExponent secondExponent : Int}
    (firstAll : ∀ char ∈ firstDigits, char.isDigit = true)
    (secondAll : ∀ char ∈ secondDigits, char.isDigit = true)
    (sameText : exponentText firstDigits firstExponent =
      exponentText secondDigits secondExponent) :
    firstDigits = secondDigits ∧ firstExponent = secondExponent := by
  rw [exponentText_eq, exponentText_eq] at sameText
  have notInDigits : 'e' ∉ pointed firstDigits := by
    intro member
    rcases mem_pointed member with inDigits | isPoint
    · exact absurd (firstAll _ inDigits) (by decide)
    · exact absurd isPoint (by decide)
  have notInExponent : 'e' ∉ (if firstExponent < 0 then ['-'] else ['+']) ++
      Nat.toDigits 10 firstExponent.natAbs := by
    intro member
    rcases List.mem_append.mp member with inSign | inSize
    · split at inSign <;> simp at inSign
    · exact absurd (isDigit_of_mem_toDigits inSize) (by decide)
  obtain ⟨sameDigits, _, sameExponent⟩ :=
    (List.append_cons_inj_of_notMem notInDigits notInExponent).mp sameText
  constructor
  · rw [← filter_pointed firstAll, sameDigits, filter_pointed secondAll]
  · by_cases firstSign : firstExponent < 0 <;> by_cases secondSign : secondExponent < 0 <;>
      simp only [firstSign, secondSign, if_true, if_false, List.cons_append, List.nil_append,
        List.cons.injEq, Char.reduceEq, false_and, true_and] at sameExponent
    · have sameSize := toDigits_injective sameExponent
      omega
    · have sameSize := toDigits_injective sameExponent
      omega

/-! ## Decimals that a text spells -/

/-- A text spells a decimal: its digits around a point have the value of the
decimal, or it is the scientific form of the decimal. -/
inductive Decimal.SpelledBy (decimal : Decimal) : List Char → Prop
  | positional {integral fraction : List Char} :
      (∀ char ∈ integral, char.isDigit = true) →
      (∀ char ∈ fraction, char.isDigit = true) →
      0 ≤ decimal.exponent + fraction.length →
      Nat.ofDigitChars 10 (integral ++ fraction) 0 =
        decimal.coefficient * tenTo (decimal.exponent + fraction.length).toNat →
      decimal.SpelledBy (integral ++ '.' :: fraction)
  | scientific :
      decimal.SpelledBy (exponentText (Decimal.digits decimal.coefficient)
        (decimal.exponent + (Decimal.digits decimal.coefficient).length - 1))

namespace Decimal

theorem isDigit_of_mem_digits {value : Nat} {char : Char} (member : char ∈ digits value) :
    char.isDigit = true := isDigit_of_mem_toDigits member

/-- Two decimals that are equal on one grid are equal in steps. -/
theorem steps_eq_of_scaled {first second : Decimal} (firstWhole : first.Whole)
    (secondWhole : second.Whole) {places : Int} (firstFits : 0 ≤ first.exponent + places)
    (secondFits : 0 ≤ second.exponent + places)
    (sameValue : first.coefficient * tenTo (first.exponent + places).toNat =
      second.coefficient * tenTo (second.exponent + places).toNat) :
    first.steps = second.steps := by
  have exponents : (first.exponent + 1074).toNat + (second.exponent + places).toNat =
      (first.exponent + places).toNat + (second.exponent + 1074).toNat := by
    simp only [Whole] at firstWhole secondWhole
    omega
  apply Nat.eq_of_mul_eq_mul_right (tenTo_pos (second.exponent + places).toNat)
  calc
    first.steps * tenTo (second.exponent + places).toNat =
        first.coefficient * tenTo (first.exponent + places).toNat *
          tenTo (second.exponent + 1074).toNat := by
      rw [steps, Nat.mul_assoc, ← tenTo_add, exponents, tenTo_add, Nat.mul_assoc]
    _ = second.coefficient * tenTo (second.exponent + places).toNat *
          tenTo (second.exponent + 1074).toNat := by rw [sameValue]
    _ = second.steps * tenTo (second.exponent + places).toNat := by
      rw [steps]
      ring

theorem exponent_mem_scientific (digits : List Char) (exponent : Int) :
    'e' ∈ exponentText digits exponent := by
  rw [exponentText_eq]
  simp

theorem not_exponent_mem_positional {integral fraction : List Char}
    (integralDigits : ∀ char ∈ integral, char.isDigit = true)
    (fractionDigits : ∀ char ∈ fraction, char.isDigit = true) :
    'e' ∉ integral ++ '.' :: fraction := by
  intro member
  rcases List.mem_append.mp member with inIntegral | inRest
  · exact absurd (integralDigits _ inIntegral) (by decide)
  · rcases List.mem_cons.mp inRest with isPoint | inFraction
    · exact absurd isPoint (by decide)
    · exact absurd (fractionDigits _ inFraction) (by decide)

/-- One text spells one value. -/
theorem steps_eq_of_spelledBy {first second : Decimal} {text : List Char}
    (firstWhole : first.Whole) (secondWhole : second.Whole)
    (firstSpelled : first.SpelledBy text) (secondSpelled : second.SpelledBy text) :
    first.steps = second.steps := by
  cases firstSpelled with
  | @positional integral fraction integralDigits fractionDigits fits value =>
      generalize shape : integral ++ '.' :: fraction = text at secondSpelled
      cases secondSpelled with
      | @positional otherIntegral otherFraction otherIntegralDigits otherFractionDigits
          otherFits otherValue =>
          have pointNotIntegral : '.' ∉ integral := fun member =>
            absurd (integralDigits _ member) (by decide)
          have pointNotFraction : '.' ∉ fraction := fun member =>
            absurd (fractionDigits _ member) (by decide)
          obtain ⟨rfl, _, rfl⟩ :=
            (List.append_cons_inj_of_notMem pointNotIntegral pointNotFraction).mp shape
          exact steps_eq_of_scaled firstWhole secondWhole fits otherFits
            (value.symm.trans otherValue)
      | scientific =>
          have exponentMember := exponent_mem_scientific (digits second.coefficient)
            (second.exponent + (digits second.coefficient).length - 1)
          rw [← shape] at exponentMember
          exact absurd exponentMember
            (not_exponent_mem_positional integralDigits fractionDigits)
  | scientific =>
      generalize shape : exponentText (digits first.coefficient)
        (first.exponent + (digits first.coefficient).length - 1) = text at secondSpelled
      cases secondSpelled with
      | positional integralDigits fractionDigits =>
          have exponentMember := exponent_mem_scientific (digits first.coefficient)
            (first.exponent + (digits first.coefficient).length - 1)
          rw [shape] at exponentMember
          exact absurd exponentMember
            (not_exponent_mem_positional integralDigits fractionDigits)
      | scientific =>
          obtain ⟨sameDigits, sameExponent⟩ := exponentText_injective
            (fun _ => isDigit_of_mem_digits) (fun _ => isDigit_of_mem_digits) shape
          have sameCoefficient : first.coefficient = second.coefficient :=
            toDigits_injective sameDigits
          rw [sameDigits] at sameExponent
          have exponents : first.exponent = second.exponent := by omega
          rw [steps, steps, sameCoefficient, exponents]

theorem isDigit_of_mem_zero : ∀ char ∈ ['0'], char.isDigit = true := by
  intro char member
  rw [List.mem_singleton.mp member]
  rfl

/-- A positional text spells the decimal whose digits it shows. -/
theorem spelledBy_positionalText (decimal : Decimal) :
    decimal.SpelledBy (positionalText (digits decimal.coefficient)
      (decimal.exponent + (digits decimal.coefficient).length - 1)) := by
  generalize shown : digits decimal.coefficient = shownDigits
  have allDigits : ∀ char ∈ shownDigits, char.isDigit = true := by
    intro char member
    rw [← shown] at member
    exact isDigit_of_mem_digits member
  have value : Nat.ofDigitChars 10 shownDigits 0 = decimal.coefficient := by
    rw [← shown]
    exact Nat.ofDigitChars_ten_toDigits
  have zeroDigits : ∀ count, ∀ char ∈ List.replicate count '0', char.isDigit = true := by
    intro count char member
    rw [List.eq_of_mem_replicate member]
    decide
  have nonempty : 0 < shownDigits.length := by
    rw [← shown]
    exact Nat.length_toDigits_pos
  unfold positionalText
  split
  · rename_i negative
    generalize zeros : (decimal.exponent + shownDigits.length - 1).natAbs - 1 = count
    have shape : ['0', '.'] ++ List.replicate count '0' ++ shownDigits =
        ['0'] ++ '.' :: (List.replicate count '0' ++ shownDigits) := by simp
    have aligned : decimal.exponent +
        (List.replicate count '0' ++ shownDigits).length = 0 := by
      rw [List.length_append, List.length_replicate]
      omega
    rw [shape]
    refine .positional isDigit_of_mem_zero ?_ (by omega) ?_
    · intro char member
      rcases List.mem_append.mp member with inZeros | inDigits
      · exact zeroDigits count char inZeros
      · exact allDigits char inDigits
    · rw [aligned]
      simp [Nat.ofDigitChars_cons, Nat.ofDigitChars_append, value, tenTo]
  · rename_i notNegative
    generalize widths : (decimal.exponent + shownDigits.length - 1).toNat + 1 = width
    simp only [List.append_assoc, List.singleton_append]
    have integralDigits : ∀ char ∈
        shownDigits.take width ++ List.replicate (width - shownDigits.length) '0',
        char.isDigit = true := by
      intro char member
      rcases List.mem_append.mp member with inDigits | inZeros
      · exact allDigits char (List.mem_of_mem_take inDigits)
      · exact zeroDigits _ char inZeros
    rw [← List.append_assoc]
    split
    · rename_i noFraction
      have short : shownDigits.length ≤ width := by
        simpa [List.isEmpty_iff, List.drop_eq_nil_iff] using noFraction
      have exponent : decimal.exponent = (width - shownDigits.length : Nat) := by omega
      refine .positional integralDigits isDigit_of_mem_zero
        (by simp only [List.length_singleton]; omega) ?_
      rw [List.take_of_length_le short, exponent]
      generalize width - shownDigits.length = count
      have place : ((count : Int) + (['0'].length : Nat)).toNat = count + 1 := by simp
      have power : tenTo count = 10 ^ count := rfl
      simp only [Nat.ofDigitChars_append, value, Nat.ofDigitChars_replicate_zero, place, tenTo_succ,
        Nat.ofDigitChars_cons, Nat.ofDigitChars_nil, Nat.sub_self, Nat.add_zero, power]
      ring
    · rename_i hasFraction
      have long : width < shownDigits.length := by
        simpa [List.isEmpty_iff, List.drop_eq_nil_iff] using hasFraction
      have aligned : decimal.exponent + (shownDigits.drop width).length = 0 := by
        rw [List.length_drop]
        omega
      refine .positional integralDigits ?_ (by omega) ?_
      · intro char member
        exact allDigits char (List.mem_of_mem_drop member)
      · have noZeros : width - shownDigits.length = 0 := by omega
        rw [aligned, noZeros, List.replicate_zero, List.append_nil, List.take_append_drop, value]
        simp [tenTo]

end Decimal

/-! ## Texts of numbers -/

theorem Decimal.SpelledBy.unsigned {decimal : Decimal} {text : List Char}
    (spelled : decimal.SpelledBy text) : text.head? ≠ some '-' := by
  intro signed
  cases spelled with
  | @positional integral fraction integralDigits _ _ _ =>
      cases integral with
      | nil => exact absurd signed (by simp)
      | cons first rest =>
          obtain rfl : first = '-' := by simpa using signed
          exact absurd (integralDigits '-' (by simp)) (by decide)
  | scientific =>
      rw [exponentText_eq] at signed
      have member := List.mem_of_head? signed
      cases shown : pointed (Decimal.digits decimal.coefficient) with
      | nil =>
          rw [shown] at signed
          exact absurd signed (by simp)
      | cons first rest =>
          rw [shown] at signed
          obtain rfl : first = '-' := by simpa using signed
          rcases mem_pointed (shown ▸ List.mem_cons_self) with inDigits | isPoint
          · exact absurd (Decimal.isDigit_of_mem_digits inDigits) (by decide)
          · exact absurd isPoint (by decide)

namespace Double

/-- The text of an absolute value spells a decimal that rounds to it. -/
theorem exists_spelledBy_absText (x : Double) :
    ∃ decimal : Decimal, decimal.Whole ∧ x.RoundsFrom decimal.steps ∧
      decimal.SpelledBy x.absText := by
  unfold absText
  split
  · rename_i zero
    have noMagnitude : x.magnitude = 0 := by simpa [isZero] using zero
    have noSignificand : x.significand = 0 := by
      rcases x.significand_cases with ⟨_, significand, _⟩ | ⟨large, _, _⟩
      · exact significand.trans noMagnitude
      · simp only [fractionCount] at large
        omega
    have noUnits : x.units = 0 := by rw [units, noSignificand, Nat.zero_mul]
    have noSteps : Decimal.steps ⟨0, 0⟩ = 0 := by rw [Decimal.steps_mk, Nat.zero_mul]
    refine ⟨⟨0, 0⟩, ?_, ?_, ?_⟩
    · simp only [Decimal.Whole]
      omega
    · have bottom : x.lowEnd = 0 := by rw [lowEnd, noUnits, Nat.mul_zero, Nat.zero_sub]
      rw [RoundsFrom, if_pos (by rw [noSignificand]), noSteps, bottom, Nat.zero_mul, Nat.zero_mul]
      exact ⟨Nat.le_refl 0, Nat.zero_le _⟩
    · have shape : ['0', '.', '0'] = ['0'] ++ '.' :: ['0'] := rfl
      rw [shape]
      exact .positional Decimal.isDigit_of_mem_zero Decimal.isDigit_of_mem_zero
        (by decide) (by decide)
  · obtain ⟨whole, rounds⟩ := x.roundsFrom_shortest
    refine ⟨x.shortest, whole, rounds, ?_⟩
    simp only
    split
    · exact x.shortest.spelledBy_positionalText
    · exact .scientific

theorem text_injective {x y : Double} (sameText : x.text = y.text) : x = y := by
  obtain ⟨xDecimal, xWhole, xRounds, xSpelled⟩ := x.exists_spelledBy_absText
  obtain ⟨yDecimal, yWhole, yRounds, ySpelled⟩ := y.exists_spelledBy_absText
  obtain ⟨sameSign, sameAbs⟩ := signed_injective xSpelled.unsigned ySpelled.unsigned sameText
  have sameSteps : xDecimal.steps = yDecimal.steps :=
    Decimal.steps_eq_of_spelledBy xWhole yWhole (sameAbs ▸ xSpelled) ySpelled
  have sameMagnitude : x.magnitude = y.magnitude :=
    magnitude_eq_of_roundsFrom (sameSteps ▸ xRounds) yRounds
  have sameNegative : x.negative = y.negative := Bool.eq_iff_iff.mpr sameSign
  cases x
  cases y
  simp_all

end Double

theorem isNumeralChar_of_isDigit {char : Char} (digit : char.isDigit = true) :
    Lexer.isNumeralChar char = true := by
  simp [Lexer.isNumeralChar, digit]

theorem Decimal.SpelledBy.numeral {decimal : Decimal} {text : List Char}
    (spelled : decimal.SpelledBy text) : ∀ char ∈ text, Lexer.isNumeralChar char = true := by
  intro char member
  cases spelled with
  | positional integralDigits fractionDigits _ _ =>
      rcases List.mem_append.mp member with inIntegral | inRest
      · exact isNumeralChar_of_isDigit (integralDigits char inIntegral)
      · rcases List.mem_cons.mp inRest with rfl | inFraction
        · decide
        · exact isNumeralChar_of_isDigit (fractionDigits char inFraction)
  | scientific =>
      rw [exponentText_eq] at member
      rcases List.mem_append.mp member with inDigits | inRest
      · rcases mem_pointed inDigits with isShown | rfl
        · exact isNumeralChar_of_isDigit (isDigit_of_mem_digits isShown)
        · decide
      · rcases List.mem_cons.mp inRest with rfl | inExponent
        · decide
        · rcases List.mem_append.mp inExponent with inSign | inSize
          · split at inSign <;> rw [List.mem_singleton.mp inSign] <;> decide
          · exact isNumeralChar_of_isDigit (isDigit_of_mem_toDigits inSize)

/-- The text of a double shows a point or an exponent. -/
theorem Decimal.SpelledBy.marked {decimal : Decimal} {text : List Char}
    (spelled : decimal.SpelledBy text) :
    ∃ mark ∈ text, mark.isDigit = false ∧ mark ≠ '-' := by
  cases spelled with
  | positional => exact ⟨'.', by simp, by decide, by decide⟩
  | scientific => exact ⟨'e', exponent_mem_scientific _ _, by decide, by decide⟩

namespace Number

theorem mem_integerText {value : Int} {char : Char} (member : char ∈ integerText value) :
    char.isDigit = true ∨ char = '-' := by
  unfold integerText at member
  rcases List.mem_append.mp member with inSign | inDigits
  · split at inSign
    · exact Or.inr (List.mem_singleton.mp inSign)
    · simp at inSign
  · exact Or.inl (isDigit_of_mem_toDigits inDigits)

theorem mem_doubleText {x : Double} {char : Char} (member : char ∈ x.absText) :
    char ∈ x.text := List.mem_append_right _ member

theorem integerText_ne_doubleText (value : Int) (x : Double) : integerText value ≠ x.text := by
  intro sameText
  obtain ⟨_, _, _, spelled⟩ := x.exists_spelledBy_absText
  obtain ⟨mark, inText, notDigit, notSign⟩ := spelled.marked
  have inInteger : mark ∈ integerText value := sameText ▸ mem_doubleText inText
  rcases mem_integerText inInteger with isDigit | isSign
  · rw [notDigit] at isDigit
    contradiction
  · exact notSign isSign

/-- Two numbers with the same text are the same number in the same form. -/
theorem text_injective {first second : Number} (sameText : first.text = second.text) :
    first = second := by
  cases first with
  | whole firstWhole =>
      cases second with
      | whole secondWhole =>
          have values := integerText_injective sameText
          cases firstWhole
          cases secondWhole
          simp_all
      | double y => exact absurd sameText (integerText_ne_doubleText _ y)
  | double x =>
      cases second with
      | whole secondWhole => exact absurd sameText.symm (integerText_ne_doubleText _ x)
      | double y => rw [Double.text_injective sameText]

theorem isNumeralChar_of_mem_text {number : Number} {char : Char}
    (member : char ∈ number.text) : Lexer.isNumeralChar char = true := by
  cases number with
  | whole value =>
      rcases mem_integerText member with isDigit | rfl
      · exact isNumeralChar_of_isDigit isDigit
      · decide
  | double x =>
      rcases List.mem_append.mp member with inSign | inText
      · split at inSign
        · rw [List.mem_singleton.mp inSign]
          decide
        · simp at inSign
      · obtain ⟨_, _, _, spelled⟩ := x.exists_spelledBy_absText
        exact spelled.numeral char inText

theorem text_ne_nil (number : Number) : number.text ≠ [] := by
  intro empty
  cases number with
  | whole value =>
      exact Nat.toDigits_ne_nil (List.append_eq_nil_iff.mp empty).2
  | double x =>
      obtain ⟨_, _, _, spelled⟩ := x.exists_spelledBy_absText
      obtain ⟨mark, inText, _, _⟩ := spelled.marked
      rw [(List.append_eq_nil_iff.mp empty).2] at inText
      simp at inText

end Number

end RecordGraph
