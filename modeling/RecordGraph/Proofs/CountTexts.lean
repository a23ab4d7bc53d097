import RecordGraph.Proofs.NumberText
import RecordGraph.Proofs.ZeroCounts
import RecordGraph.Query.OptionsDocument

/-!
# Counts written as text

A count that is written as a number is taken as it is.  Written as text it goes through the double
nearest to it, so that a count of more than 53 significant bits is taken for another one.  A text
that counts zero is kept, while the number zero is left out.
-/

namespace RecordGraph

/-! ## Digits among white space -/

theorem isBlank_eq_false_of_isDigit {char : Char} (digit : char.isDigit = true) :
    isBlank char = false := by
  have range : 48 ≤ char.toNat ∧ char.toNat ≤ 57 := by
    simpa [Char.isDigit, UInt32.le_iff_toNat_le] using digit
  have outside : ∀ range ∈ blankRanges, range.2 < 48 ∨ 57 < range.1 := by decide
  rw [isBlank, List.any_eq_false]
  intro interval member
  have apart := outside interval member
  rw [Bool.and_eq_true, decide_eq_true_iff, decide_eq_true_iff]
  omega

theorem dropWhile_isBlank_append {blanks text : List Char}
    (blank : ∀ char ∈ blanks, isBlank char = true) (nonempty : text ≠ [])
    (solid : ∀ char ∈ text, isBlank char = false) (rest : List Char) :
    (blanks ++ (text ++ rest)).dropWhile isBlank = text ++ rest := by
  rw [List.dropWhile_append_of_pos blank]
  obtain ⟨first, others, rfl⟩ := List.exists_cons_of_ne_nil nonempty
  have firstSolid := solid first List.mem_cons_self
  rw [List.cons_append, List.dropWhile_cons_of_neg (by simp [firstSolid])]

theorem trimBlank_between {before text after : List Char}
    (blankBefore : ∀ char ∈ before, isBlank char = true)
    (blankAfter : ∀ char ∈ after, isBlank char = true) (nonempty : text ≠ [])
    (solid : ∀ char ∈ text, isBlank char = false) :
    trimBlank (before ++ (text ++ after)) = text := by
  have blankReversed : ∀ char ∈ after.reverse, isBlank char = true := by
    simpa only [List.mem_reverse] using blankAfter
  have solidReversed : ∀ char ∈ text.reverse, isBlank char = false := by
    simpa only [List.mem_reverse] using solid
  have trimmed := dropWhile_isBlank_append blankReversed (by simpa using nonempty) solidReversed []
  rw [List.append_nil] at trimmed
  rw [trimBlank, dropWhile_isBlank_append blankBefore nonempty solid, List.reverse_append, trimmed,
    List.reverse_reverse]

namespace Numeral

section Digits

variable {digits : List Char}

theorem splitSign_digits (allDigits : ∀ char ∈ digits, char.isDigit = true) :
    splitSign digits = (false, false, digits) := by
  cases digits with
  | nil => rfl
  | cons first rest =>
      have firstDigit := allDigits first List.mem_cons_self
      rw [splitSign.eq_3]
      · intro others isMinus
        cases isMinus
        exact absurd firstDigit (by decide)
      · intro others isPlus
        cases isPlus
        exact absurd firstDigit (by decide)

theorem scan?_digits (allDigits : ∀ char ∈ digits, char.isDigit = true) :
    scan? digits = some ⟨false, false, digits, none, none⟩ := by
  have taken : digits.takeWhile Char.isDigit = digits := List.takeWhile_eq_self_iff.mpr allDigits
  have dropped : digits.dropWhile Char.isDigit = [] := List.dropWhile_eq_nil_iff.mpr allDigits
  simp only [scan?, splitSign_digits allDigits, List.span_eq_takeWhile_dropWhile, taken, dropped]

/-- Digits are read as the double nearest to the number that they spell. -/
theorem decimalText?_digits (nonempty : digits ≠ [])
    (allDigits : ∀ char ∈ digits, char.isDigit = true) :
    decimalText? digits =
      (nearestDouble? (Nat.ofDigitChars 10 digits 0) 0).map (·.withSign false) := by
  simp [decimalText?, scan?_digits allDigits, nonempty]

end Digits

theorem nearestDouble?_natural {value : Nat} (small : value < twoTo 65) :
    nearestDouble? value 0 = some (Double.ofInt value) := by
  have absolute : (value : Int).natAbs = value := Int.natAbs_natCast value
  have magnitude := Double.magnitude_ofInt (absolute.symm ▸ small)
  have fits := (Double.ofInt value).magnitude_lt
  rw [magnitude, absolute, ← Double.magnitudeLimit] at fits
  have rounded : Double.ofQuotient? value 1 = some (Double.ofInt value) := by
    have unsigned : decide ((value : Int) < 0) = false := decide_eq_false (by omega)
    simp only [Double.ofInt, absolute, Double.ofQuotient?, dif_pos fits, Option.getD_some,
      unsigned, Double.withSign]
  by_cases isZero : value = 0
  · subst isZero
    decide +kernel
  · have wide : ¬ ((Nat.toDigits 10 value).length : Int) + 0 < -400 := by omega
    have unscaled : value * tenTo 0 = value := Nat.mul_one value
    rw [nearestDouble?, if_neg isZero, if_neg (by decide), if_neg wide, if_neg (by decide),
      Int.toNat_zero, unscaled, rounded]

end Numeral

/-! ## Whole numbers that are doubles -/

namespace Double

theorem withSign_withSign (x : Double) (first second : Bool) :
    (x.withSign first).withSign second = x.withSign second := rfl

theorem withSign_ofInt_natural (number : Nat) :
    (ofInt number).withSign false = ofInt number := by
  have unsigned : decide ((number : Int) < 0) = false := decide_eq_false (by omega)
  rw [ofInt, unsigned, withSign_withSign]

theorem significand_lt (x : Double) : x.significand < 2 ^ 53 := by
  have cases := x.significand_cases
  simp only [fractionCount] at cases
  omega

/-- A large double is a whole number of at most 53 significant bits. -/
theorem exists_bits_of_le {x : Double} (large : 2 ^ 53 ≤ x.value) :
    ∃ bits < 2 ^ 53, ∃ exponent, x.value = (bits * 2 ^ exponent : ℕ) := by
  have notBelow : ¬ x.value < 0 := not_lt.mpr (le_trans (by positivity) large)
  rw [value, signedUnits_eq_units notBelow, Int.cast_natCast] at large ⊢
  rw [le_div_iff₀ unitsPerOne_cast_pos] at large
  have largeUnits : 2 ^ 53 * unitsPerOne ≤ x.units := by exact_mod_cast large
  -- in a lesser binade the significand would need more than 53 bits
  have scale : 1074 ≤ x.binade := by
    by_contra small
    have atMost : twoTo x.binade ≤ unitsPerOne := twoTo_le_twoTo (by omega)
    have less : x.units < 2 ^ 53 * unitsPerOne :=
      Nat.mul_lt_mul_of_lt_of_le x.significand_lt atMost unitsPerOne_pos
    omega
  obtain ⟨exponent, shift⟩ := Nat.exists_eq_add_of_le scale
  refine ⟨x.significand, x.significand_lt, exponent, ?_⟩
  have shifted : x.units = x.significand * 2 ^ exponent * unitsPerOne := by
    rw [units, shift, Nat.add_comm, twoTo_add, ← unitsPerOne, ← Nat.mul_assoc]
    rfl
  rw [shifted, Nat.cast_mul, mul_div_cancel_right₀ _ unitsPerOne_cast_pos.ne']

theorem isNearest_natural {number : Nat} (small : number < twoTo 65) :
    (ofInt number).IsNearest number := by
  have absolute : (number : Int).natAbs = number := Int.natAbs_natCast number
  have near := isNearest_ofInt (absolute.symm ▸ small)
  rwa [Int.cast_natCast] at near

theorem value_ofInt_natural {number bits exponent : Nat} (small : number < twoTo 65)
    (shape : number = bits * 2 ^ exponent) (few : bits < 2 ^ 53) :
    (ofInt number).value = number := by
  have absolute : (number : Int).natAbs = number := Int.natAbs_natCast number
  have exact := value_ofInt (absolute.symm ▸ small) (absolute.trans shape) few
  rw [exact, Int.cast_natCast]

/-- The double nearest to a whole number is one of at most 53 significant bits. -/
theorem exists_bits_ofInt {number : Nat} (small : number < twoTo 65) :
    ∃ bits < 2 ^ 53, ∃ exponent, (ofInt number).value = (bits * 2 ^ exponent : ℕ) := by
  rcases Nat.lt_or_ge number (2 ^ 53) with few | many
  · have unshifted : number = number * 2 ^ 0 := by rw [pow_zero, mul_one]
    refine ⟨number, few, 0, ?_⟩
    rw [← unshifted, value_ofInt_natural small unshifted few]
  · apply exists_bits_of_le
    -- the power of two is a double, so the nearest one to a greater number is not below it
    have least := (isNearest_natural small).least (ofInt (2 ^ 53 : ℕ))
    have power : (ofInt (2 ^ 53 : ℕ)).value = (2 ^ 53 : ℕ) :=
      value_ofInt_natural (by decide) (show 2 ^ 53 = 1 * 2 ^ 53 by decide) (by decide)
    have manyCast : ((2 ^ 53 : ℕ) : ℚ) ≤ number := Nat.cast_le.mpr many
    rw [power, abs_sub_comm ((2 ^ 53 : ℕ) : ℚ), abs_of_nonneg (sub_nonneg.mpr manyCast)] at least
    have below := (abs_le.mp least).1
    push_cast at below
    linarith

end Double

/-! ## Counts as texts -/

namespace Count

/-- A count has at most 53 significant bits. -/
def FitsDouble (count : Count) : Prop :=
  ∃ bits < 2 ^ 53, ∃ exponent, count.toNat = bits * 2 ^ exponent

/-- A count written as text, among white space. -/
def spelled (count : Count) (before after : List Char) : Value :=
  .string (String.ofList (before ++ (Nat.toDigits 10 count.toNat ++ after)))

variable (count : Count)

theorem toNat_lt_twoTo : count.toNat < twoTo 65 :=
  lt_trans count.toNat_lt (by decide)

theorem fitsDouble_iff : count.FitsDouble ↔ (Double.ofInt count.toNat).value = count.toNat := by
  constructor
  · intro fits
    obtain ⟨bits, few, exponent, shape⟩ := fits
    exact Double.value_ofInt_natural count.toNat_lt_twoTo shape few
  · intro exact
    obtain ⟨bits, few, exponent, shape⟩ := Double.exists_bits_ofInt count.toNat_lt_twoTo
    exact ⟨bits, few, exponent, Nat.cast_injective (exact.symm.trans shape)⟩

theorem fitsDouble_of_le {count : Count} (small : count.toNat ≤ 2 ^ 53) : count.FitsDouble := by
  rcases Nat.lt_or_eq_of_le small with few | isPower
  · exact ⟨count.toNat, few, 0, (Nat.mul_one _).symm⟩
  · exact ⟨1, by decide, 53, by omega⟩

section Spelled

variable {before after : List Char} (blankBefore : ∀ char ∈ before, isBlank char = true)
  (blankAfter : ∀ char ∈ after, isBlank char = true)
include blankBefore blankAfter

/-- A count written as text counts what the double nearest to it does. -/
theorem count?_spelled :
    (count.spelled before after).count? = (Double.ofInt count.toNat).count? := by
  have allDigits : ∀ char ∈ Nat.toDigits 10 count.toNat, char.isDigit = true := by
    intro char member
    exact isDigit_of_mem_toDigits member
  have solid : ∀ char ∈ Nat.toDigits 10 count.toNat, isBlank char = false := by
    intro char member
    exact isBlank_eq_false_of_isDigit (allDigits char member)
  rw [spelled, Value.count?, String.toList_ofList,
    trimBlank_between blankBefore blankAfter Nat.toDigits_ne_nil solid,
    Numeral.decimalText?_digits Nat.toDigits_ne_nil allDigits, Nat.ofDigitChars_ten_toDigits,
    Numeral.nearestDouble?_natural count.toNat_lt_twoTo, Option.map_some,
    Double.withSign_ofInt_natural, Option.bind_some]

theorem exists_count?_spelled :
    ∃ value : ℕ, (Double.ofInt count.toNat).value = value ∧
      (count.spelled before after).count? = some (Count.ofNat value) := by
  obtain ⟨bits, _, exponent, exact⟩ := Double.exists_bits_ofInt count.toNat_lt_twoTo
  refine ⟨_, exact, ?_⟩
  have notBelow : ¬ (Double.ofInt count.toNat).value < 0 := by
    rw [exact]
    exact not_lt.mpr (Nat.cast_nonneg _)
  rw [count.count?_spelled blankBefore blankAfter, Double.count?_eq, if_neg notBelow, exact,
    Nat.floor_natCast]

/-- The greatest count is rounded up and cut back to itself. -/
theorem count?_spelled_eq_some_iff :
    (count.spelled before after).count? = some count ↔
      count.FitsDouble ∨ count = 0xFFFFFFFFFFFFFFFF := by
  by_cases isGreatest : count = 0xFFFFFFFFFFFFFFFF
  · -- the nearest double is one more, and too large for a count
    subst isGreatest
    rw [count?_spelled _ blankBefore blankAfter]
    exact iff_of_true (by decide +kernel) (Or.inr rfl)
  · obtain ⟨value, exact, counts⟩ := count.exists_count?_spelled blankBefore blankAfter
    rw [counts, Option.some_inj, Count.ofNat_eq_iff, fitsDouble_iff, exact, Nat.cast_inj]
    simp only [isGreatest, and_false]

end Spelled

end Count

/-! ## Options as texts -/

namespace Selection

variable {selection : Selection} {key : String} {first second : Value}

theorem filter_withFilter (isOption : key ∈ ["skip", "offset", "limit"]) (selection : Selection)
    (value : Value) : (selection.withFilter key value).filter = selection.filter :=
  filter_set (selection.mem_idleKeys_of_option isOption) value

/-- True values for an option that count alike are compiled alike. -/
theorem compile_withFilter_congr (isOption : key ∈ ["skip", "offset", "limit"])
    (selection : Selection) (firstTrue : first.truthy = true) (secondTrue : second.truthy = true)
    (sameCount : first.count? = second.count?) :
    (selection.withFilter key first).compile = (selection.withFilter key second).compile := by
  have sameOptions : (selection.withFilter key first).options =
      (selection.withFilter key second).options := by
    simp only [List.mem_cons, List.not_mem_nil, or_false] at isOption
    rcases isOption with rfl | rfl | rfl
    · simp [options, truthyAt?_withFilter, firstTrue, secondTrue, sameCount]
    · cases skip : selection.truthyAt? "skip" with
      | none => simp [options, truthyAt?_withFilter, skip, firstTrue, secondTrue, sameCount]
      -- a skip that is stated hides the offset
      | some value => simp [options, truthyAt?_withFilter, skip]
    · simp [options, truthyAt?_withFilter, firstTrue, secondTrue, sameCount]
  rw [compile, compile, filter_withFilter isOption, filter_withFilter isOption, sameOptions]

/-- What a query comes to that states one option. -/
theorem Unpaged.options_withFilter (unpaged : selection.Unpaged)
    (isOption : key ∈ ["skip", "offset", "limit"]) (value : Value) :
    (selection.withFilter key value).options =
      if key = "limit" then
        { selection.options with limit := if value.truthy then value.count? else none }
      else { selection.options with skip := if value.truthy then value.count? else none } := by
  have noSkip : selection.truthyAt? "skip" = none := by simp [truthyAt?, unpaged.skip]
  have noOffset : selection.truthyAt? "offset" = none := by simp [truthyAt?, unpaged.offset]
  have noLimit : selection.truthyAt? "limit" = none := by simp [truthyAt?, unpaged.limit]
  have counted : ((if value.truthy then some value else none).bind Value.count?) =
      if value.truthy then value.count? else none := by
    cases value.truthy <;> rfl
  simp only [List.mem_cons, List.not_mem_nil, or_false] at isOption
  rcases isOption with rfl | rfl | rfl <;>
    simp [options, truthyAt?_withFilter, noSkip, noOffset, noLimit, counted]

theorem Unpaged.compile_withFilter_iff (unpaged : selection.Unpaged)
    (isOption : key ∈ ["skip", "offset", "limit"]) (first second : Value) :
    (selection.withFilter key first).compile = (selection.withFilter key second).compile ↔
      (if first.truthy then first.count? else none) =
        if second.truthy then second.count? else none := by
  rw [compile, compile, filter_withFilter isOption, filter_withFilter isOption,
    unpaged.options_withFilter isOption, unpaged.options_withFilter isOption]
  by_cases isLimit : key = "limit" <;> simp [isLimit]

end Selection

namespace Count

theorem truthy_spelled (count : Count) (before after : List Char) :
    (count.spelled before after).truthy = true := by
  have nonempty : before ++ (Nat.toDigits 10 count.toNat ++ after) ≠ [] := by
    simp [Nat.toDigits_ne_nil]
  rw [spelled, Value.truthy, bne_iff_ne]
  intro empty
  exact nonempty (by simpa using congrArg String.toList empty)

/-- A count written as text, among white space, is taken for the whole number that is the double
nearest to it, cut to the greatest count.  It means the same as the number just if it has at most
53 significant bits or is the greatest count; as an option it moreover has to differ from zero,
since the number zero is left out and the text is not. -/
theorem text_means_number_iff (count : Count) {before after : List Char}
    (blankBefore : ∀ char ∈ before, isBlank char = true)
    (blankAfter : ∀ char ∈ after, isBlank char = true) :
    (Value.ofCount count).count? = some count ∧
    (∃ (x : Double) (value : ℕ), x.IsNearest count.toNat ∧ x.value = value ∧
      (count.spelled before after).count? = some (Count.ofNat value)) ∧
    ((count.spelled before after).count? = (Value.ofCount count).count? ↔
      count.FitsDouble ∨ count = 0xFFFFFFFFFFFFFFFF) ∧
    (count.toNat ≤ 2 ^ 53 → count.FitsDouble) ∧
    ∀ (selection : Selection), ∀ key ∈ ["skip", "offset", "limit"],
      (count ≠ 0 → count.FitsDouble ∨ count = 0xFFFFFFFFFFFFFFFF →
        (selection.withFilter key (count.spelled before after)).compile =
          (selection.withFilter key (.ofCount count)).compile) ∧
      (selection.Unpaged →
        ((selection.withFilter key (count.spelled before after)).compile =
            (selection.withFilter key (.ofCount count)).compile ↔
          count ≠ 0 ∧ (count.FitsDouble ∨ count = 0xFFFFFFFFFFFFFFFF))) := by
  have counts : (Value.ofCount count).count? = some count := Value.count?_ofCount count
  have sameIff := count.count?_spelled_eq_some_iff blankBefore blankAfter
  obtain ⟨value, exact, spelledCounts⟩ := count.exists_count?_spelled blankBefore blankAfter
  refine ⟨counts, ⟨_, value, Double.isNearest_natural count.toNat_lt_twoTo, exact, spelledCounts⟩,
    ?_, fitsDouble_of_le, ?_⟩
  · rw [counts]
    exact sameIff
  · intro selection key isOption
    have numberTruthy : (Value.ofCount count).truthy = (count != 0) := Value.truthy_ofCount count
    constructor
    · intro notZero fits
      refine Selection.compile_withFilter_congr isOption selection (count.truthy_spelled _ _) ?_ ?_
      · rw [numberTruthy, bne_iff_ne]
        exact notZero
      · rw [counts]
        exact sameIff.mpr fits
    · intro unpaged
      rw [unpaged.compile_withFilter_iff isOption, if_pos (count.truthy_spelled _ _), numberTruthy,
        counts, ← sameIff]
      by_cases isZero : count = 0
      · rw [if_neg (by simp [isZero]), spelledCounts]
        exact iff_of_false (by intro impossible; cases impossible) fun both => both.1 isZero
      · rw [if_pos (bne_iff_ne.mpr isZero), and_iff_right isZero]

/-- The text of the least count with 54 significant bits counts one less. -/
theorem text_means_number_leastInexact :
    (Count.spelled 0x20000000000001 [' '] ['\n']).count? = some 0x20000000000000 ∧
      (Selection.empty.withFilter "limit" (Count.spelled 25 [] [])).compile =
        (Selection.empty.withFilter "limit" (.ofCount 25)).compile ∧
      (Selection.empty.withFilter "limit" (Count.spelled 0x20000000000001 [' '] ['\n'])).compile ≠
        (Selection.empty.withFilter "limit" (.ofCount 0x20000000000001)).compile ∧
      (Selection.empty.withFilter "skip" (Count.spelled 0 [] [])).compile ≠
        (Selection.empty.withFilter "skip" (.ofCount 0)).compile := by
  have noBlanks : ∀ char ∈ [], isBlank char = true := List.forall_mem_nil _
  have spaceBlank : ∀ char ∈ [' '], isBlank char = true := List.forall_mem_singleton.mpr (by decide)
  have breakBlank : ∀ char ∈ ['\n'], isBlank char = true :=
    List.forall_mem_singleton.mpr (by decide)
  have rounded : (Count.spelled 0x20000000000001 [' '] ['\n']).count? = some 0x20000000000000 := by
    decide +kernel
  have unpaged : Selection.empty.Unpaged := ⟨rfl, rfl, rfl⟩
  obtain ⟨_, _, _, small, smallOptions⟩ := text_means_number_iff 25 noBlanks noBlanks
  obtain ⟨counts, _, same, _, options⟩ :=
    text_means_number_iff 0x20000000000001 spaceBlank breakBlank
  obtain ⟨_, _, _, _, zeroOptions⟩ := text_means_number_iff 0 noBlanks noBlanks
  refine ⟨rounded, ?_, ?_, ?_⟩
  · exact (smallOptions .empty "limit" (by decide)).1 (by decide) (Or.inl (small (by decide)))
  · intro sameCompiled
    obtain ⟨_, fits⟩ := ((options .empty "limit" (by decide)).2 unpaged).mp sameCompiled
    have sameCount := same.mpr fits
    rw [rounded, counts] at sameCount
    exact absurd sameCount (by decide)
  · intro sameCompiled
    exact (((zeroOptions .empty "skip" (by decide)).2 unpaged).mp sameCompiled).1 rfl

end Count

end RecordGraph
