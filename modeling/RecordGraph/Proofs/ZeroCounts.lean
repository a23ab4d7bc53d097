import Mathlib.Data.Rat.Floor
import RecordGraph.Proofs.NearestDouble
import RecordGraph.Proofs.Pages

/-!
# Counts of zero

Whether a count is absent is decided by the truth of its value, and how much it counts only
afterwards.  A number that is zero is false and as good as absent.  Texts and fractions that count
zero are true, so that they are kept: a limit of this kind leaves no records.
-/

namespace RecordGraph

/-! ## What a double counts -/

namespace Double

theorem value_zero : zero.value = 0 := by
  have noUnits : zero.signedUnits = 0 := by decide
  rw [value, noUnits, Int.cast_zero, zero_div]

theorem isZero_iff (x : Double) : x.isZero = true ↔ x.value = 0 := by
  have isEqual : x.isZero = x.equal zero := by
    have zeroKey : zero.key = 0 := by decide
    rw [isZero, equal, zeroKey, Bool.eq_iff_iff, beq_iff_eq, beq_iff_eq, key]
    split <;> omega
  rw [isEqual, equal_iff, value_zero]

theorem isBelowZero_iff (x : Double) : x.isBelowZero = true ↔ x.value < 0 := by
  have zeroKey : zero.key = 0 := by decide
  rw [← value_zero, ← key_lt_iff, zeroKey, isBelowZero, isZero, key]
  cases x.negative <;> simp

theorem signedUnits_eq_units {x : Double} (notBelow : ¬ x.value < 0) :
    x.signedUnits = x.units := by
  rw [← isBelowZero_iff, isBelowZero] at notBelow
  rw [signedUnits]
  split
  · rename_i negative
    have isZero : x.magnitude = 0 := by simpa [negative, isZero] using notBelow
    rw [units_eq_zero isZero]
    rfl
  · rfl

theorem floorAbs_eq {x : Double} (notBelow : ¬ x.value < 0) : x.floorAbs = ⌊x.value⌋₊ := by
  rw [floorAbs, value, signedUnits_eq_units notBelow, Int.cast_natCast, Nat.floor_div_eq_div]

/-- A double counts what its value is cut to. -/
theorem count?_eq (x : Double) :
    x.count? = if x.value < 0 then none else some (Count.ofNat ⌊x.value⌋₊) := by
  rw [count?]
  by_cases below : x.value < 0
  · rw [if_pos below, if_pos ((isBelowZero_iff x).mpr below)]
  · rw [if_neg below, if_neg (mt (isBelowZero_iff x).mp below), floorAbs_eq below]

end Double

theorem Count.ofNat_eq_iff (value : Nat) (count : Count) :
    Count.ofNat value = count ↔
      value = count.toNat ∨ 0x10000000000000000 ≤ value ∧ count = 0xFFFFFFFFFFFFFFFF := by
  have bounded := count.toNat_lt
  rw [Count.ofNat]
  split
  · rename_i fits
    rw [← UInt64.toNat_inj, UInt64.toNat_ofNat_of_lt' fits]
    omega
  · have different : value ≠ count.toNat := by omega
    rw [or_iff_right different, and_iff_right (by omega), eq_comm]

theorem Count.ofNat_eq_zero_iff (value : Nat) : Count.ofNat value = 0 ↔ value = 0 := by
  simp [Count.ofNat_eq_iff]

theorem Double.count?_eq_zero_iff (x : Double) :
    x.count? = some 0 ↔ 0 ≤ x.value ∧ x.value < 1 := by
  rw [count?_eq]
  by_cases below : x.value < 0
  · rw [if_pos below]
    exact iff_of_false (by intro impossible; cases impossible) fun between =>
      absurd below (not_lt.mpr between.1)
  · rw [if_neg below, Option.some_inj, Count.ofNat_eq_zero_iff, Nat.floor_eq_zero,
      and_iff_right (not_lt.mp below)]

/-! ## True values that count zero -/

namespace Value

/-- A value that counts zero without being false. -/
inductive TruthyZero : Value → Prop
  | fraction {x : Double} : 0 < x.value → x.value < 1 → TruthyZero (.number (.double x))
  | text {text : String} {x : Double} :
      Numeral.decimalText? (trimBlank text.toList) = some x → 0 ≤ x.value → x.value < 1 →
        TruthyZero (.string text)

theorem truthyZero_iff (value : Value) :
    value.TruthyZero ↔ value.truthy = true ∧ value.count? = some 0 := by
  constructor
  · intro truthyZero
    cases truthyZero with
    | @fraction x positive small =>
        refine ⟨?_, (Double.count?_eq_zero_iff x).mpr ⟨positive.le, small⟩⟩
        rw [truthy, Number.isZero, Bool.not_eq_true', ← Bool.not_eq_true, Double.isZero_iff]
        exact positive.ne'
    | @text text x reads notBelow small =>
        constructor
        · rw [truthy, bne_iff_ne]
          intro empty
          subst empty
          have unread : Numeral.decimalText? (trimBlank "".toList) = none := by decide
          rw [unread] at reads
          cases reads
        · rw [count?, reads, Option.bind_some]
          exact (Double.count?_eq_zero_iff x).mpr ⟨notBelow, small⟩
  · intro both
    obtain ⟨isTruthy, counts⟩ := both
    cases value with
    | null => cases isTruthy
    | bool truth => cases truth <;> cases counts
    | number number =>
        cases number with
        | whole whole =>
            rw [truthy, Number.isZero, Bool.not_eq_true', beq_eq_false_iff_ne] at isTruthy
            rw [count?, Whole.count?] at counts
            split at counts
            · cases counts
            · rw [Option.some_inj, Count.ofNat_eq_zero_iff] at counts
              omega
        | double x =>
            obtain ⟨notBelow, small⟩ := (Double.count?_eq_zero_iff x).mp counts
            refine .fraction (lt_of_le_of_ne notBelow ?_) small
            rw [truthy, Number.isZero, Bool.not_eq_true', ← Bool.not_eq_true,
              Double.isZero_iff] at isTruthy
            exact Ne.symm isTruthy
    | string text =>
        obtain ⟨x, reads, xCounts⟩ := Option.bind_eq_some_iff.mp counts
        obtain ⟨notBelow, small⟩ := (Double.count?_eq_zero_iff x).mp xCounts
        exact .text reads notBelow small
    | array items => cases counts
    | object entries => cases counts

end Value

/-! ## Queries without a key -/

namespace Selection

/-- The query with nothing said about a key. -/
def without (selection : Selection) (key : String) : Selection :=
  ⟨selection.entries.filter (·.1 ≠ key)⟩

variable {selection : Selection} {key : String}

theorem truthyAt?_without_self (selection : Selection) (key : String) :
    (selection.without key).truthyAt? key = none := by
  rw [truthyAt?, get?, without, Document.get?_filter_ne]
  rfl

theorem truthyAt?_without_of_ne {other : String} (different : other ≠ key)
    (selection : Selection) :
    (selection.without key).truthyAt? other = selection.truthyAt? other := by
  rw [truthyAt?, truthyAt?, get?, get?, without]
  congr 1
  exact Document.get?_filter_key (· ≠ key) (decide_eq_true different) selection.entries

theorem filter_without (idle : key ∈ selection.idleKeys) :
    (selection.without key).filter = selection.filter := by
  apply filter_congr
  apply criteria_congr
  apply Document.filter_filter_of_imp
  intro entry kept
  refine decide_eq_true fun isKey => ?_
  rw [isKey] at kept
  exact of_decide_eq_true kept idle

theorem mem_idleKeys_of_option (selection : Selection)
    (isOption : key ∈ ["skip", "offset", "limit"]) : key ∈ selection.idleKeys := by
  have allIdle : ∀ key ∈ ["skip", "offset", "limit"],
      key ∈ ["orderBy", "sort", "skip", "offset", "limit"] := by decide
  exact List.mem_append_left _ (allIdle key isOption)

theorem options_without (falsy : selection.truthyAt? key = none) :
    (selection.without key).options = selection.options := by
  have sameTruthy : ∀ other, (selection.without key).truthyAt? other =
      selection.truthyAt? other := by
    intro other
    by_cases isKey : other = key
    -- a false value was not read before either
    · rw [isKey, truthyAt?_without_self, falsy]
    · exact truthyAt?_without_of_ne isKey selection
  simp only [options, sameTruthy]

/-- A query is compiled as if it said nothing about an option with a false value. -/
theorem compile_without (idle : key ∈ selection.idleKeys)
    (falsy : selection.truthyAt? key = none) :
    (selection.without key).compile = selection.compile := by
  rw [compile, compile, filter_without idle, options_without falsy]

/-! ## Options of zero -/

theorem truthyAt?_eq_some_iff {value : Value} :
    selection.truthyAt? key = some value ↔ selection.get? key = some value ∧ value.truthy = true :=
  Option.filter_eq_some_iff

theorem truthyAt?_eq_none_iff :
    selection.truthyAt? key = none ↔
      ∀ value, selection.get? key = some value → value.truthy = false := by
  simp only [truthyAt?, Option.filter_eq_none_iff, Bool.not_eq_true]

theorem truthyAt?_bind_count?_iff :
    (selection.truthyAt? key).bind Value.count? = some 0 ↔
      ∃ value, selection.get? key = some value ∧ value.TruthyZero := by
  simp only [Option.bind_eq_some_iff, truthyAt?_eq_some_iff, Value.truthyZero_iff, and_assoc]

theorem limit_eq_zero_iff :
    selection.options.limit = some 0 ↔
      ∃ limit, selection.get? "limit" = some limit ∧ limit.TruthyZero :=
  truthyAt?_bind_count?_iff

theorem skip_eq_zero_iff :
    selection.options.skip = some 0 ↔
      (∃ skip, selection.get? "skip" = some skip ∧ skip.TruthyZero) ∨
        (∀ skip, selection.get? "skip" = some skip → skip.truthy = false) ∧
          ∃ offset, selection.get? "offset" = some offset ∧ offset.TruthyZero := by
  rw [← truthyAt?_eq_none_iff, ← truthyAt?_bind_count?_iff, ← truthyAt?_bind_count?_iff]
  simp only [options]
  cases selection.truthyAt? "skip" with
  | none => simp
  | some skip => simp

theorem truthyAt?_eq_none_of_count {value : Value} (stated : selection.get? key = some value)
    (counts : value.count? = some 0) (notTruthyZero : ¬ value.TruthyZero) :
    selection.truthyAt? key = none := by
  rw [truthyAt?_eq_none_iff]
  intro found isFound
  obtain rfl : value = found := Option.some_inj.mp (stated.symm.trans isFound)
  rw [← Bool.not_eq_true]
  intro isTruthy
  exact notTruthyZero (value.truthyZero_iff.mpr ⟨isTruthy, counts⟩)

/-- A limit that counts zero is left out just if it is false. -/
theorem compile_without_limit_iff {limit : Value} (stated : selection.get? "limit" = some limit)
    (counts : limit.count? = some 0) :
    (selection.without "limit").compile = selection.compile ↔ ¬ limit.TruthyZero := by
  constructor
  · intro same truthyZero
    have noLimit : (selection.without "limit").options.limit = none := by
      simp only [options, truthyAt?_without_self, Option.bind_none]
    have zeroLimit : selection.options.limit = some 0 :=
      limit_eq_zero_iff.mpr ⟨limit, stated, truthyZero⟩
    have sameOptions : (selection.without "limit").options = selection.options :=
      congrArg CompiledQuery.options same
    rw [← sameOptions, noLimit] at zeroLimit
    cases zeroLimit
  · intro notTruthyZero
    exact compile_without (selection.mem_idleKeys_of_option (by simp))
      (truthyAt?_eq_none_of_count stated counts notTruthyZero)

variable (collection : String) (projection : Option Document) (records : List Document)

/-- A limit of zero leaves no records. -/
theorem answer_of_limit_zero (limit : selection.options.limit = some 0) :
    (Call.fetch collection selection.compile projection).answer records = [] := by
  simp only [Call.fetch, compile, arrange, slice, limit]
  rfl

/-- A skip of zero that is kept skips no records, and hides the offset. -/
theorem answer_of_skip_zero (skip : ∃ skip, selection.get? "skip" = some skip ∧ skip.TruthyZero) :
    (Call.fetch collection selection.compile projection).answer records =
      (Call.fetch collection ((selection.without "skip").without "offset").compile
        projection).answer records := by
  have zeroSkip : selection.options.skip = some 0 := skip_eq_zero_iff.mpr (Or.inl skip)
  have noSkip : ((selection.without "skip").without "offset").options.skip = none := by
    simp only [options, truthyAt?_without_self,
      truthyAt?_without_of_ne (by decide : "skip" ≠ "offset"), Option.or_none, Option.bind_none]
  have sameTruthy : ∀ key, key ≠ "skip" → key ≠ "offset" →
      ((selection.without "skip").without "offset").truthyAt? key = selection.truthyAt? key := by
    intro key notSkip notOffset
    rw [truthyAt?_without_of_ne notOffset, truthyAt?_without_of_ne notSkip]
  have sameSort : ((selection.without "skip").without "offset").options.sort =
      selection.options.sort := by
    simp only [options, sameTruthy "orderBy" (by decide) (by decide),
      sameTruthy "sort" (by decide) (by decide)]
  have sameLimit : ((selection.without "skip").without "offset").options.limit =
      selection.options.limit := by
    simp only [options, sameTruthy "limit" (by decide) (by decide)]
  have sameFilter : ((selection.without "skip").without "offset").filter = selection.filter := by
    rw [filter_without (by simp [idleKeys]), filter_without (by simp [idleKeys])]
  simp only [Call.fetch, compile, arrange, slice, QueryOptions.sortKeys, sameFilter, sameSort,
    sameLimit, zeroSkip, noSkip]
  rfl

end Selection

namespace Adapter

variable {adapter : Adapter} {name : String} {mapper : Mapper}

/-- A find call depends on what its query is compiled to. -/
theorem findAll_congr {selection other : Selection} (same : other.compile = selection.compile)
    (adapter : Adapter) (pace : Pace) (name : String) (options : FindOptions) :
    adapter.findAll pace name other options = adapter.findAll pace name selection options := by
  rw [findAll, findAll, same]

/-- An option is zero just if its value counts zero without being false.  Values that are false are
left out; a limit of zero that is kept finds nothing, and a skip of zero that is kept finds what
there is without skip and offset. -/
theorem zero_kept_iff (pace : Pace) (registered : adapter.catalog.get? name = some mapper)
    (session : Session) (selection : Selection) (options : FindOptions) :
    (selection.options.limit = some 0 ↔
      ∃ limit, selection.get? "limit" = some limit ∧ limit.TruthyZero) ∧
    (selection.options.skip = some 0 ↔
      (∃ skip, selection.get? "skip" = some skip ∧ skip.TruthyZero) ∨
        (∀ skip, selection.get? "skip" = some skip → skip.truthy = false) ∧
          ∃ offset, selection.get? "offset" = some offset ∧ offset.TruthyZero) ∧
    (∀ key ∈ ["skip", "offset", "limit"], ∀ value, selection.get? key = some value →
      value.count? = some 0 → ¬ value.TruthyZero →
        (selection.without key).compile = selection.compile ∧
          adapter.findAll pace name (selection.without key) options =
            adapter.findAll pace name selection options) ∧
    (∀ limit, selection.get? "limit" = some limit → limit.count? = some 0 →
      ((selection.without "limit").compile = selection.compile ↔ ¬ limit.TruthyZero)) ∧
    (selection.options.limit = some 0 →
      mapper.collectionName options.collection ∉ session.store.unavailable →
        ((adapter.findAll pace name selection options).outcome session).1 = .ok []) ∧
    ∀ skip, selection.get? "skip" = some skip → skip.TruthyZero → ∀ found,
      ((adapter.findAll pace name selection options).outcome session).1 = .ok found ↔
        ((adapter.findAll pace name ((selection.without "skip").without "offset") options).outcome
          session).1 = .ok found := by
  refine ⟨Selection.limit_eq_zero_iff, Selection.skip_eq_zero_iff, ?_, ?_, ?_, ?_⟩
  · intro key isOption value stated counts notTruthyZero
    have same := Selection.compile_without (selection.mem_idleKeys_of_option isOption)
      (Selection.truthyAt?_eq_none_of_count stated counts notTruthyZero)
    exact ⟨same, findAll_congr same adapter pace name options⟩
  · intro limit stated counts
    exact Selection.compile_without_limit_iff stated counts
  · intro zeroLimit accepted
    rw [outcome_findAll_eq_ok_iff pace registered, Selection.answer_of_limit_zero _ _ _ zeroLimit]
    exact ⟨accepted, Plan.outcome_resolved_nil _ session.store .many⟩
  · intro skip stated truthyZero found
    rw [outcome_findAll_eq_ok_iff pace registered, outcome_findAll_eq_ok_iff pace registered,
      Selection.answer_of_skip_zero _ _ _ ⟨skip, stated, truthyZero⟩]

end Adapter

/-! ## A roster with limits of zero -/

def half : Double := ⟨false, 0x3FE0000000000000, by decide⟩

set_option maxRecDepth 100000 in
/-- A number that is zero is no limit, and a text is.  A skip of one half hides the offset. -/
theorem zero_kept_roster :
    roster.catalog.get? "u" = some ((Mapper.named "u").withTable "users") ∧
    ((roster.findAll .direct "u" ⟨[("limit", .number (.ofNat 0))]⟩ .none).outcome
      ⟨rosterStore, []⟩).1 = .ok rosterUsers ∧
    ((roster.findAll .direct "u" ⟨[("limit", .string " 0 ")]⟩ .none).outcome
      ⟨rosterStore, []⟩).1 = .ok [] ∧
    ((roster.findAll .direct "u"
      ⟨[("skip", .number (.double half)), ("offset", .number (.ofNat 2))]⟩ .none).outcome
        ⟨rosterStore, []⟩).1 = .ok rosterUsers := by
  have registered : roster.catalog.get? "u" = some ((Mapper.named "u").withTable "users") := by
    decide
  have everyone : ((roster.findAll .direct "u" .empty .none).outcome ⟨rosterStore, []⟩).1 =
      .ok rosterUsers := by
    cbv
  obtain ⟨_, _, leftOut, _⟩ := Adapter.zero_kept_iff .direct registered ⟨rosterStore, []⟩
    ⟨[("limit", .number (.ofNat 0))]⟩ .none
  obtain ⟨kept, _, _, _, finds, _⟩ := Adapter.zero_kept_iff .direct registered ⟨rosterStore, []⟩
    ⟨[("limit", .string " 0 ")]⟩ .none
  obtain ⟨_, _, _, _, _, hides⟩ := Adapter.zero_kept_iff .direct registered ⟨rosterStore, []⟩
    ⟨[("skip", .number (.double half)), ("offset", .number (.ofNat 2))]⟩ .none
  refine ⟨registered, ?_, ?_, ?_⟩
  · have isFalse : ¬ (Value.number (.ofNat 0)).TruthyZero := by
      rw [Value.truthyZero_iff]
      decide
    rw [← (leftOut "limit" (by decide) (.number (.ofNat 0)) (by decide) (by decide) isFalse).2]
    exact everyone
  · refine finds (kept.mpr ⟨.string " 0 ", by decide, ?_⟩) (by decide)
    rw [Value.truthyZero_iff]
    decide +kernel
  · have isTrue : (Value.number (.double half)).TruthyZero := by
      rw [Value.truthyZero_iff]
      decide +kernel
    rw [hides (.number (.double half)) (by decide) isTrue]
    exact everyone

end RecordGraph
