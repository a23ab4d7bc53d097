import RecordGraph.Proofs.NearestDouble
import RecordGraph.Proofs.OwnerIndependence

/-!
# What the comparison of numbers tells apart

Numbers compare by the doubles nearest to them.  This is the order of the rational
numbers that they denote, except that numbers with a common nearest double count as
equal; such numbers differ only if one of them is a whole number of more than 53 bits.
Queries for a key and relations tell records apart by number keys just as far.
-/

namespace RecordGraph

theorem Whole.natAbs_lt (whole : Whole) : whole.value.natAbs < twoTo 65 := by
  have lower := whole.lower
  have upper := whole.upper
  have limit : twoTo 65 = 0x20000000000000000 := by decide
  omega

namespace Number

/-! ## Numbers and their nearest doubles -/

/-- The rational number that a number denotes. -/
def value : Number → ℚ
  | .whole number => number.value
  | .double x => x.value

/-- One double is nearest to both numbers. -/
def ShareDouble (left right : Number) : Prop :=
  ∃ x : Double, x.IsNearest left.value ∧ x.IsNearest right.value

/-- Numbers are compared by the doubles nearest to them. -/
theorem isNearest_toDouble (number : Number) : number.toDouble.IsNearest number.value := by
  cases number with
  | whole number => exact Double.isNearest_ofInt number.natAbs_lt
  | double x => exact x.isNearest_value

/-- Only whole numbers of more than 53 bits are not doubles. -/
theorem toDouble_value_or (number : Number) :
    number.toDouble.value = number.value ∨
      (∃ whole, number = .whole whole ∧ 2 ^ 53 < whole.value.natAbs) ∧
        ∀ x : Double, x.value ≠ number.value := by
  by_cases exact : number.toDouble.value = number.value
  · exact Or.inl exact
  · refine Or.inr ⟨?_, ?_⟩
    · cases number with
      | double x => exact absurd rfl exact
      | whole number =>
          refine ⟨number, rfl, ?_⟩
          by_contra small
          have limit : twoTo 53 = 2 ^ 53 := rfl
          apply exact
          rcases Nat.lt_or_ge number.value.natAbs (2 ^ 53) with less | atLeast
          · have unshifted : number.value.natAbs = number.value.natAbs * twoTo 0 :=
              (Nat.mul_one _).symm
            exact Double.value_ofInt number.natAbs_lt unshifted less
          · have power : number.value.natAbs = 2 ^ 52 * twoTo 1 := by
              have shifted : 2 ^ 52 * twoTo 1 = 2 ^ 53 := by decide
              omega
            exact Double.value_ofInt number.natAbs_lt power (by decide)
    · intro x denoted
      have near := number.isNearest_toDouble
      rw [← denoted] at near
      exact exact (near.value_eq.trans denoted)

theorem shareDouble_iff (left right : Number) :
    left.ShareDouble right ↔ left.toDouble.value = right.toDouble.value := by
  constructor
  · rintro ⟨x, nearLeft, nearRight⟩
    exact (left.isNearest_toDouble.unique nearLeft).trans
      (nearRight.unique right.isNearest_toDouble)
  · intro sameValue
    exact ⟨right.toDouble, left.isNearest_toDouble.congr sameValue, right.isNearest_toDouble⟩

theorem shareDouble_of_value_eq {left right : Number} (sameValue : left.value = right.value) :
    left.ShareDouble right :=
  ⟨left.toDouble, left.isNearest_toDouble, sameValue ▸ left.isNearest_toDouble⟩

/-- Different numbers with a common nearest double are not both doubles. -/
theorem exists_large_of_shareDouble {left right : Number} (shared : left.ShareDouble right)
    (differ : left.value ≠ right.value) :
    ∃ number ∈ [left, right],
      (∃ whole, number = .whole whole ∧ 2 ^ 53 < whole.value.natAbs) ∧
        ∀ x : Double, x.value ≠ number.value := by
  have sameDouble := (shareDouble_iff left right).mp shared
  rcases left.toDouble_value_or with leftExact | leftLarge
  · rcases right.toDouble_value_or with rightExact | rightLarge
    · exact absurd (leftExact.symm.trans (sameDouble.trans rightExact)) differ
    · exact ⟨right, List.mem_cons_of_mem _ List.mem_cons_self, rightLarge⟩
  · exact ⟨left, List.mem_cons_self, leftLarge⟩

/-! ## Comparing numbers -/

theorem equal_iff (left right : Number) : left.equal right = true ↔ left.ShareDouble right := by
  rw [shareDouble_iff, equal, Double.equal_iff]

theorem compare_of_shareDouble {left right : Number} (shared : left.ShareDouble right) :
    left.compare right = .eq := by
  rw [compare, Double.compare_eq, compare_eq_iff_eq]
  exact (shareDouble_iff left right).mp shared

/-- Rounding keeps the order of numbers that it does not make equal. -/
theorem compare_of_not_shareDouble {left right : Number} (apart : ¬ left.ShareDouble right) :
    left.compare right = Ord.compare left.value right.value := by
  have doublesDiffer : left.toDouble.value ≠ right.toDouble.value :=
    mt (shareDouble_iff left right).mpr apart
  have nearLeft := left.isNearest_toDouble
  have nearRight := right.isNearest_toDouble
  rw [compare, Double.compare_eq]
  rcases lt_trichotomy left.value right.value with less | sameValue | greater
  · have doubleLess := lt_of_le_of_ne (nearLeft.value_le nearRight less) doublesDiffer
    rw [compare_lt_iff_lt.mpr less, compare_lt_iff_lt.mpr doubleLess]
  · exact absurd (shareDouble_of_value_eq sameValue) apart
  · have doubleGreater := lt_of_le_of_ne (nearRight.value_le nearLeft greater) doublesDiffer.symm
    rw [compare_gt_iff_gt.mpr greater, compare_gt_iff_gt.mpr doubleGreater]

end Number

/-! ## Finding records by numbers -/

theorem Number.shareDouble_comm (left right : Number) :
    left.ShareDouble right ↔ right.ShareDouble left := by
  rw [shareDouble_iff, shareDouble_iff, eq_comm]

theorem Value.number_equal_iff (number : Number) (value : Value) :
    (Value.number number).equal value = true ↔
      ∃ other, value = .number other ∧ number.ShareDouble other := by
  cases value with
  | number other => simp [equal, Number.equal_iff]
  | _ => simp [equal, same]

theorem Value.equal_number_iff (value : Value) (number : Number) :
    value.equal (.number number) = true ↔
      ∃ other, value = .number other ∧ other.ShareDouble number := by
  cases value with
  | number other => simp [equal, Number.equal_iff]
  | _ => simp [equal, same]

theorem isOrContains_number_iff (held : Number) (key : Value) :
    IsOrContains (some (.number held)) key ↔
      ∃ number, key = .number number ∧ number.ShareDouble held := by
  simp only [Number.shareDouble_comm _ held, ← Value.number_equal_iff]
  constructor
  · intro found
    cases found with
    | whole sameValue => exact sameValue
  · exact .whole

section Records

variable {record : Document} {field : String} {held : Number}

theorem satisfies_equality_number_iff (holds : record.read? field = some (.number held))
    (noGroup : field ≠ alternativesKey) (asked : Number) :
    satisfies record (Task.criterion field "==" (.number asked)).filter = true ↔
      asked.ShareDouble held := by
  have equality : Comparator.ofToken? "==" = some ⟨.equal, false⟩ := by decide
  have literal : ¬ (Value.number asked).ReadsAsOperators := by
    rintro ⟨_, impossible, _⟩
    cases impossible
  rw [Task.filter_criterion equality]
  refine (satisfies_point_iff noGroup literal record).trans ?_
  rw [holds, isOrContains_number_iff]
  simp

theorem satisfies_member_number_iff (holds : record.read? field = some (.number held))
    (noGroup : field ≠ alternativesKey) (keys : List Value) :
    satisfies record (Task.criterion field "in" (.array keys)).filter = true ↔
      ∃ asked, .number asked ∈ keys ∧ asked.ShareDouble held := by
  have member : Comparator.ofToken? "in" = some ⟨.member, false⟩ := by decide
  rw [Task.filter_criterion member, satisfies_member_iff, holds]
  simp only [isOrContains_number_iff]
  constructor
  · rintro ⟨_, _, isKey, asked, rfl, shared⟩
    exact ⟨asked, isKey, shared⟩
  · rintro ⟨asked, isKey, shared⟩
    exact ⟨noGroup, _, isKey, asked, rfl, shared⟩

theorem mem_withKey_number_iff (holds : record.read? field = some (.number held))
    (keys : List Value) (related : List Document) :
    record ∈ Task.withKey field keys related ↔
      record ∈ related ∧ ∃ asked, .number asked ∈ keys ∧ asked.ShareDouble held := by
  rw [Task.mem_withKey_iff]
  apply and_congr_right
  intro _
  constructor
  · rintro ⟨value, read, key, isKey, sameValue⟩
    obtain rfl := Option.some.inj (holds.symm.trans read)
    obtain ⟨asked, rfl, shared⟩ := (Value.equal_number_iff key held).mp sameValue
    exact ⟨asked, isKey, shared⟩
  · rintro ⟨asked, isKey, shared⟩
    exact ⟨_, holds, _, isKey, (Value.equal_number_iff _ held).mpr ⟨asked, rfl, shared⟩⟩

end Records

/-- Numbers are equal if they share the nearest double, and are ordered by what they denote
otherwise.  Those that are equal and differ are not both doubles: one of them is a whole
number of more than 53 bits.  A record is found by a number, among others or alone, and is
given to its owner, if the number that it holds is equal to this one in the same sense. -/
theorem numbers_compare_as_nearest (left right : Number) :
    ((Value.number left).equal (.number right) = true ↔ left.ShareDouble right) ∧
      (left.ShareDouble right →
        (Value.number left).compare? (.number right) = some .eq) ∧
      (¬ left.ShareDouble right →
        (Value.number left).compare? (.number right) =
          some (Ord.compare left.value right.value)) ∧
      (left.value = right.value → left.ShareDouble right) ∧
      (left.ShareDouble right → left.value ≠ right.value →
        ∃ number ∈ [left, right],
          (∃ whole, number = .whole whole ∧ 2 ^ 53 < whole.value.natAbs) ∧
            ∀ x : Double, x.value ≠ number.value) ∧
      ∀ (record : Document) (field : String), record.read? field = some (.number right) →
        (field ≠ alternativesKey →
          (satisfies record (Task.criterion field "==" (.number left)).filter = true ↔
            left.ShareDouble right)) ∧
        ∀ keys : List Value,
          (field ≠ alternativesKey →
            (satisfies record (Task.criterion field "in" (.array keys)).filter = true ↔
              ∃ key, .number key ∈ keys ∧ key.ShareDouble right)) ∧
          ∀ related : List Document,
            record ∈ Task.withKey field keys related ↔
              record ∈ related ∧ ∃ key, .number key ∈ keys ∧ key.ShareDouble right := by
  refine ⟨Number.equal_iff left right, ?_, ?_, Number.shareDouble_of_value_eq,
    Number.exists_large_of_shareDouble, ?_⟩
  · intro shared
    rw [Value.compare?, Number.compare_of_shareDouble shared]
  · intro apart
    rw [Value.compare?, Number.compare_of_not_shareDouble apart]
  · intro record field holds
    refine ⟨fun noGroup => satisfies_equality_number_iff holds noGroup left, ?_⟩
    intro keys
    exact ⟨fun noGroup => satisfies_member_number_iff holds noGroup keys,
      mem_withKey_number_iff holds keys⟩

/-- The least positive whole number that is not a double. -/
def leastInexact : Number := .whole ⟨0x20000000000001, by decide, by decide⟩

/-- The whole number before it, which is the double nearest to both. -/
def lastExact : Number := .whole ⟨0x20000000000000, by decide, by decide⟩

/-- A record with the exact number is found by the other one, and given to its owner. -/
theorem numbers_compare_as_nearest_leastInexact :
    leastInexact.value ≠ lastExact.value ∧
      (Value.number leastInexact).equal (.number lastExact) = true ∧
      (Value.number leastInexact).compare? (.number lastExact) = some .eq ∧
      (∃ number ∈ [leastInexact, lastExact],
        (∃ whole, number = .whole whole ∧ 2 ^ 53 < whole.value.natAbs) ∧
          ∀ x : Double, x.value ≠ number.value) ∧
      satisfies [("id", .number lastExact)]
        (Task.criterion "id" "==" (.number leastInexact)).filter = true ∧
      satisfies [("id", .number lastExact)]
        (Task.criterion "id" "in" (.array [.number leastInexact])).filter = true ∧
      [("id", .number lastExact)] ∈ Task.withKey "id" [.number leastInexact]
        [[("id", .number lastExact)]] ∧
      (Value.number (.ofNat 1)).compare? (.number (.ofNat 2)) =
        some (Ord.compare (Number.ofNat 1).value (Number.ofNat 2).value) := by
  have equal : (Value.number leastInexact).equal (.number lastExact) = true := by decide +kernel
  have smallApart : (Value.number (.ofNat 1)).equal (.number (.ofNat 2)) ≠ true := by
    decide +kernel
  have differ : leastInexact.value ≠ lastExact.value := by
    simp [leastInexact, lastExact, Number.value]
  obtain ⟨equalIff, compared, _, _, large, finds⟩ :=
    numbers_compare_as_nearest leastInexact lastExact
  obtain ⟨smallIff, _, ordered, _⟩ := numbers_compare_as_nearest (.ofNat 1) (.ofNat 2)
  have shared := equalIff.mp equal
  have hasKey : ∃ key, Value.number key ∈ [Value.number leastInexact] ∧
      key.ShareDouble lastExact :=
    ⟨leastInexact, List.mem_singleton.mpr rfl, shared⟩
  obtain ⟨foundByIdentity, foundByKeys⟩ := finds [("id", .number lastExact)] "id" (by decide)
  obtain ⟨listed, given⟩ := foundByKeys [.number leastInexact]
  exact ⟨differ, equal, compared shared, large shared differ,
    (foundByIdentity (by decide)).mpr shared, (listed (by decide)).mpr hasKey,
    (given _).mpr ⟨List.mem_singleton.mpr rfl, hasKey⟩, ordered (mt smallIff.mpr smallApart)⟩

end RecordGraph
