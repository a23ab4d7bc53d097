import Mathlib.Data.List.Forall2
import RecordGraph.Proofs.LooseEquality
import RecordGraph.Proofs.NumberComparison
import RecordGraph.Proofs.Pages
import RecordGraph.Proofs.ZeroCounts

/-!
# What an ordering means

An ordering is a field or a list of entries, each a field or a field with a direction.  It is
first laid out as a list of pairs, in which bare fields get the default direction and entries
of other shapes are kept, and then read as sort keys, for which those entries are passed over.
Both together read an ordering as it was written, and an ordering that is laid out stays so.
-/

namespace RecordGraph

/-! ## Words in any case -/

/-- A text is a word, in which every letter may be small or capital. -/
def InAnyCase (text word : String) : Prop :=
  List.Forall₂ (fun char letter => char = letter ∨ char = letter.toUpper) text.toList word.toList

theorem toNat_toLower (char : Char) :
    char.toLower.toNat =
      if 65 ≤ char.toNat ∧ char.toNat ≤ 90 then char.toNat + 32 else char.toNat := by
  by_cases capital : char.val ≥ 'A'.val ∧ char.val ≤ 'Z'.val
  · have bounds : 65 ≤ char.toNat ∧ char.toNat ≤ 90 := capital
    have shift : ('a'.val - 'A'.val).toNat = 32 := by decide
    rw [if_pos bounds, Char.toLower, dif_pos capital, Char.toNat, UInt32.toNat_add, shift,
      ← Char.toNat]
    omega
  · have bounds : ¬ (65 ≤ char.toNat ∧ char.toNat ≤ 90) := capital
    rw [if_neg bounds, Char.toLower, dif_neg capital]

theorem toNat_toUpper {letter : Char} (small : 'a'.val ≤ letter.val ∧ letter.val ≤ 'z'.val) :
    letter.toUpper.toNat = letter.toNat - 32 := by
  have bounds : 97 ≤ letter.toNat ∧ letter.toNat ≤ 122 := small
  have shift : ('A'.val - 'a'.val).toNat = 0xFFFFFFE0 := by decide
  rw [Char.toUpper, dif_pos small, Char.toNat, UInt32.toNat_add, shift, ← Char.toNat]
  omega

theorem toLower_eq_iff {letter : Char} (isLower : letter.isLower = true) (char : Char) :
    char.toLower = letter ↔ char = letter ∨ char = letter.toUpper := by
  have small : 'a'.val ≤ letter.val ∧ letter.val ≤ 'z'.val := by simpa [Char.isLower] using isLower
  have bounds : 97 ≤ letter.toNat ∧ letter.toNat ≤ 122 := small
  rw [← Char.toNat_inj, ← Char.toNat_inj, ← Char.toNat_inj, toNat_toLower, toNat_toUpper small]
  split <;> omega

theorem lowered_eq_iff {word : String} (small : ∀ letter ∈ word.toList, letter.isLower = true)
    (text : String) : SortDirection.lowered text = word.toList ↔ InAnyCase text word := by
  rw [SortDirection.lowered, ← List.forall₂_eq_eq_eq, List.forall₂_map_left_iff, InAnyCase]
  generalize text.toList = chars
  generalize word.toList = letters at small
  induction letters generalizing chars with
  | nil => cases chars <;> simp
  | cons letter letters inductionHypothesis =>
      cases chars with
      | nil => simp
      | cons char chars =>
          have restSmall : ∀ other ∈ letters, other.isLower = true :=
            fun other member => small other (List.mem_cons_of_mem _ member)
          rw [List.forall₂_cons, List.forall₂_cons,
            toLower_eq_iff (small letter List.mem_cons_self), inductionHypothesis chars restSmall]

/-! ## Numbers below zero -/

theorem Number.value_eq_zero_of_isZero {number : Number} (isZero : number.isZero = true) :
    number.value = 0 := by
  cases number with
  | whole whole =>
      have noValue : whole.value = 0 := by simpa [Number.isZero] using isZero
      rw [value, noValue, Int.cast_zero]
  | double x => exact (Double.isZero_iff x).mp isZero

/-- Rounding keeps the numbers below zero apart from the others. -/
theorem Number.isBelowZero_iff (number : Number) :
    number.isBelowZero = true ↔ number.value < 0 := by
  have near := number.isNearest_toDouble
  have nearZero : Double.zero.IsNearest 0 := Double.value_zero ▸ Double.zero.isNearest_value
  rw [isBelowZero, Double.isBelowZero_iff]
  constructor
  · intro below
    by_contra notBelow
    rcases (not_lt.mp notBelow).eq_or_lt with isZero | above
    · rw [← isZero] at near
      have noValue := near.unique nearZero
      rw [Double.value_zero] at noValue
      exact below.ne noValue
    · have atLeast := nearZero.value_le near above
      rw [Double.value_zero] at atLeast
      exact not_lt.mpr atLeast below
  · intro below
    have atMost := near.value_le nearZero below
    rw [Double.value_zero] at atMost
    apply lt_of_le_of_ne atMost
    intro noValue
    have isZero : number.isZero = true := by
      rw [← Number.isZero_toDouble, Double.isZero_iff]
      exact noValue
    exact below.ne (value_eq_zero_of_isZero isZero)

/-! ## Reading an ordering -/

namespace Value

/-- A direction is descending: a number below zero, or one of two words in any case. -/
inductive AsksDescending : Value → Prop
  | number {number : Number} : number.value < 0 → AsksDescending (.number number)
  | word {text : String} : InAnyCase text "desc" ∨ InAnyCase text "descending" →
      AsksDescending (.string text)

/-- An entry of an ordering names a field, and the direction in which it is sorted. -/
inductive NamesKey : Value → String × SortDirection → Prop
  | bare (field : String) : NamesKey (.string field) (field, .ascending)
  | alone (field : String) : NamesKey (.array [.string field]) (field, .ascending)
  | ascending {field : String} {direction : Value} {rest : List Value} :
      ¬ direction.AsksDescending →
      NamesKey (.array (.string field :: direction :: rest)) (field, .ascending)
  | descending {field : String} {direction : Value} {rest : List Value} :
      direction.AsksDescending →
      NamesKey (.array (.string field :: direction :: rest)) (field, .descending)

/-- The entries of an ordering give sort keys in their order; those that name no field give
none. -/
inductive EntriesReadAs : List Value → List (String × SortDirection) → Prop
  | nil : EntriesReadAs [] []
  | named {entry : Value} {key : String × SortDirection} {entries : List Value}
      {keys : List (String × SortDirection)} :
      entry.NamesKey key → EntriesReadAs entries keys →
      EntriesReadAs (entry :: entries) (key :: keys)
  | skipped {entry : Value} {entries : List Value} {keys : List (String × SortDirection)} :
      (∀ key, ¬ entry.NamesKey key) → EntriesReadAs entries keys →
      EntriesReadAs (entry :: entries) keys

/-- An ordering gives sort keys. -/
inductive OrderReadAs : Value → List (String × SortDirection) → Prop
  | field (field : String) : OrderReadAs (.string field) [(field, .ascending)]
  | entries {entries : List Value} {keys : List (String × SortDirection)} :
      EntriesReadAs entries keys → OrderReadAs (.array entries) keys
  | other {order : Value} : (∀ field, order ≠ .string field) →
      (∀ entries, order ≠ .array entries) → OrderReadAs order []

end Value

/-- The ordering of a query: the first of two keys with a true value. -/
inductive Selection.OrderedBy (selection : Selection) : Value → Prop
  | preferred {order : Value} : selection.get? "orderBy" = some order → order.truthy = true →
      OrderedBy selection order
  | fallback {order : Value} :
      (∀ value, selection.get? "orderBy" = some value → value.truthy = false) →
      selection.get? "sort" = some order → order.truthy = true → OrderedBy selection order

namespace SortDirection

theorem ofValue_string (text : String) :
    ofValue (.string text) = .descending ↔ (Value.string text).AsksDescending := by
  have isWord : (Value.string text).AsksDescending ↔
      InAnyCase text "desc" ∨ InAnyCase text "descending" :=
    ⟨fun | .word asked => asked, .word⟩
  rw [isWord, ← lowered_eq_iff (by simp [Char.isLower]), ← lowered_eq_iff (by simp [Char.isLower]),
    ofValue]
  split
  · rename_i asked
    exact iff_of_true rfl asked
  · rename_i notAsked
    exact iff_of_false SortDirection.noConfusion notAsked

theorem ofValue_number (number : Number) :
    ofValue (.number number) = .descending ↔ (Value.number number).AsksDescending := by
  have isBelow : (Value.number number).AsksDescending ↔ number.value < 0 :=
    ⟨fun | .number below => below, .number⟩
  rw [isBelow, ← Number.isBelowZero_iff, ofValue]
  split
  · rename_i below
    exact iff_of_true rfl below
  · rename_i notBelow
    exact iff_of_false SortDirection.noConfusion notBelow

theorem ofValue_eq_descending_iff (value : Value) :
    ofValue value = .descending ↔ value.AsksDescending := by
  cases value with
  | string text => exact ofValue_string text
  | number number => exact ofValue_number number
  | _ => constructor <;> intro impossible <;> cases impossible

theorem ofValue_eq_ascending_iff (value : Value) :
    ofValue value = .ascending ↔ ¬ value.AsksDescending := by
  rw [← ofValue_eq_descending_iff]
  cases ofValue value <;> simp

end SortDirection

/-- A key is read from a laid out entry if and only if the entry names it. -/
theorem sortKey?_normalEntry_eq_some_iff (entry : Value) (key : String × SortDirection) :
    sortKey? (Selection.normalEntry entry) = some key ↔ entry.NamesKey key := by
  constructor
  · intro read
    unfold Selection.normalEntry at read
    split at read
    · cases read
      exact .bare _
    · unfold sortKey? at read
      split at read
      · cases read
        exact .alone _
      · rename_i field given rest _
        cases read
        cases asked : SortDirection.ofValue given with
        | ascending => exact .ascending ((SortDirection.ofValue_eq_ascending_iff given).mp asked)
        | descending =>
            exact .descending ((SortDirection.ofValue_eq_descending_iff given).mp asked)
      · cases read
  · intro named
    cases named with
    | bare => rfl
    | alone => rfl
    | @ascending field given rest asked =>
        show some (field, SortDirection.ofValue given) = _
        rw [(SortDirection.ofValue_eq_ascending_iff given).mpr asked]
    | @descending field given rest asked =>
        show some (field, SortDirection.ofValue given) = _
        rw [(SortDirection.ofValue_eq_descending_iff given).mpr asked]

theorem filterMap_sortKey?_eq_iff (entries : List Value) (keys : List (String × SortDirection)) :
    (entries.map Selection.normalEntry).filterMap sortKey? = keys ↔
      Value.EntriesReadAs entries keys := by
  induction entries generalizing keys with
  | nil =>
      constructor
      · intro noKeys
        rw [← noKeys]
        exact .nil
      · intro read
        cases read with
        | nil => rfl
  | cons entry rest inductionHypothesis =>
      rw [List.map_cons]
      cases read : sortKey? (Selection.normalEntry entry) with
      | none =>
          have unnamed : ∀ key, ¬ entry.NamesKey key := by
            intro key named
            rw [← sortKey?_normalEntry_eq_some_iff, read] at named
            cases named
          rw [List.filterMap_cons_none read, inductionHypothesis]
          constructor
          · exact .skipped unnamed
          · intro allRead
            cases allRead with
            | named isNamed _ => exact absurd isNamed (unnamed _)
            | skipped _ restRead => exact restRead
      | some key =>
          have named := (sortKey?_normalEntry_eq_some_iff entry key).mp read
          rw [List.filterMap_cons_some read]
          constructor
          · intro isList
            rw [← isList]
            exact .named named ((inductionHypothesis _).mp rfl)
          · intro allRead
            cases allRead with
            | named otherNamed restRead =>
                rw [← sortKey?_normalEntry_eq_some_iff, read] at otherNamed
                rw [(inductionHypothesis _).mpr restRead, Option.some.inj otherNamed]
            | skipped unnamed _ => exact absurd named (unnamed _)

namespace Selection

variable {selection : Selection}

/-! ## Orderings of queries -/

theorem orderedBy_iff (order : Value) :
    selection.OrderedBy order ↔
      (selection.truthyAt? "orderBy").or (selection.truthyAt? "sort") = some order := by
  rw [Option.or_eq_some_iff, truthyAt?_eq_some_iff, truthyAt?_eq_none_iff, truthyAt?_eq_some_iff]
  constructor
  · intro ordered
    cases ordered with
    | preferred stated truthy => exact Or.inl ⟨stated, truthy⟩
    | fallback noOther stated truthy => exact Or.inr ⟨noOther, stated, truthy⟩
  · intro found
    rcases found with ⟨stated, truthy⟩ | ⟨noOther, stated, truthy⟩
    · exact .preferred stated truthy
    · exact .fallback noOther stated truthy

theorem sort_eq_some_iff (sorted : Value) :
    selection.options.sort = some sorted ↔
      ∃ order, selection.OrderedBy order ∧ normalOrder order = sorted := by
  simp only [orderedBy_iff, options, Option.map_eq_some_iff]

/-- A laid out ordering is read as it was written. -/
theorem sortKeys_of_orderedBy {order : Value} (ordered : selection.OrderedBy order)
    (keys : List (String × SortDirection)) :
    selection.options.sortKeys = keys ↔ order.OrderReadAs keys := by
  rw [QueryOptions.sortKeys, (sort_eq_some_iff _).mpr ⟨order, ordered, rfl⟩]
  cases order with
  | string field =>
      constructor
      · intro isKeys
        rw [← isKeys]
        exact .field field
      · intro read
        cases read with
        | field _ => rfl
        | other notField _ => exact absurd rfl (notField field)
  | array entries =>
      apply (filterMap_sortKey?_eq_iff entries keys).trans
      constructor
      · exact .entries
      · intro orderRead
        cases orderRead with
        | entries read => exact read
        | other _ notEntries => exact absurd rfl (notEntries entries)
  | _ =>
      constructor
      · intro noKeys
        rw [← noKeys]
        exact .other (fun _ => Value.noConfusion) fun _ => Value.noConfusion
      · intro read
        cases read with
        | other _ _ => rfl

theorem sortKeys_of_unordered (unordered : ∀ order, ¬ selection.OrderedBy order) :
    selection.options.sortKeys = [] := by
  have unsorted : selection.options.sort = none := by
    rw [Option.eq_none_iff_forall_ne_some]
    intro sorted isSorted
    rcases (sort_eq_some_iff sorted).mp isSorted with ⟨order, ordered, _⟩
    exact unordered order ordered
  rw [QueryOptions.sortKeys, unsorted]

/-! ## Orderings that are laid out -/

theorem normalEntry_normalEntry (entry : Value) :
    normalEntry (normalEntry entry) = normalEntry entry := by
  cases entry <;> rfl

theorem normalOrder_normalOrder (order : Value) :
    normalOrder (normalOrder order) = normalOrder order := by
  cases order with
  | array entries =>
      simp only [normalOrder, List.map_map, Value.array.injEq, List.map_inj_left,
        Function.comp_apply]
      exact fun entry _ => normalEntry_normalEntry entry
  | _ => rfl

theorem truthy_normalOrder {order : Value} (truthy : order.truthy = true) :
    (normalOrder order).truthy = true := by
  cases order with
  | string field => rfl
  | array entries => rfl
  | _ => exact truthy

/-- The options of a query do not change when its ordering is written as it was laid out. -/
theorem options_withOrderBy {sorted : Value} (isSorted : selection.options.sort = some sorted) :
    (selection.withOrderBy sorted).options = selection.options := by
  rcases (sort_eq_some_iff sorted).mp isSorted with ⟨order, ordered, rfl⟩
  have truthy : order.truthy = true := by
    cases ordered with
    | preferred _ truthy => exact truthy
    | fallback _ _ truthy => exact truthy
  have written : ∀ key, (selection.withOrderBy (normalOrder order)).truthyAt? key =
      if key = "orderBy" then some (normalOrder order) else selection.truthyAt? key := by
    intro key
    show (selection.withFilter "orderBy" (normalOrder order)).truthyAt? key = _
    rw [truthyAt?_withFilter, if_pos (truthy_normalOrder truthy)]
  simp only [options, written, String.reduceEq, if_true, if_false, Option.some_or,
    (orderedBy_iff order).mp ordered, Option.map_some, normalOrder_normalOrder]

/-- The sort keys of a query are those that its ordering was written for, and there are none
without an ordering.  With the compiled ordering in place of the written one, a query has the
same options. -/
theorem ordering_read_as_written (selection : Selection) :
    (∀ keys, selection.options.sortKeys = keys ↔
      (∃ order, selection.OrderedBy order ∧ order.OrderReadAs keys) ∨
        (∀ order, ¬ selection.OrderedBy order) ∧ keys = []) ∧
      ∀ sorted, selection.options.sort = some sorted →
        (selection.withOrderBy sorted).options = selection.options := by
  refine ⟨?_, fun _ isSorted => options_withOrderBy isSorted⟩
  intro keys
  by_cases ordering : ∃ order, selection.OrderedBy order
  · rcases ordering with ⟨order, ordered⟩
    rw [sortKeys_of_orderedBy ordered]
    constructor
    · exact fun read => Or.inl ⟨order, ordered, read⟩
    · intro readAs
      rcases readAs with ⟨other, otherOrdered, read⟩ | ⟨unordered, _⟩
      · rwa [← sortKeys_of_orderedBy ordered, sortKeys_of_orderedBy otherOrdered]
      · exact absurd ordered (unordered order)
  · have unordered : ∀ order, ¬ selection.OrderedBy order := not_exists.mp ordering
    rw [sortKeys_of_unordered unordered]
    constructor
    · exact fun noKeys => Or.inr ⟨unordered, noKeys.symm⟩
    · intro readAs
      rcases readAs with ⟨order, ordered, _⟩ | ⟨_, noKeys⟩
      · exact absurd ordered (unordered order)
      · exact noKeys.symm

end Selection

/-! ## A mixed ordering -/

/-- A query whose ordering stands under the second key, in entries of every shape. -/
def mixedOrdering : Selection where
  entries :=
    [("orderBy", .string ""),
      ("sort", .array
        [.array [.string "age", .string "DESCending"], .string "name", .null, .array [],
          .array [.number (.ofNat 1), .string "desc"],
          .array [.string "", .number (.whole ⟨-1, by decide, by decide⟩), .null],
          .array [.string "rank", .object []]])]

theorem ordering_read_as_written_mixedOrdering :
    (∃ order, mixedOrdering.OrderedBy order ∧
      order.OrderReadAs
        [("age", .descending), ("name", .ascending), ("", .descending), ("rank", .ascending)]) ∧
    ∃ sorted, mixedOrdering.options.sort = some sorted ∧
      (mixedOrdering.withOrderBy sorted).options = mixedOrdering.options := by
  rcases mixedOrdering.ordering_read_as_written with ⟨read, laidOut⟩
  have keys : mixedOrdering.options.sortKeys =
      [("age", .descending), ("name", .ascending), ("", .descending), ("rank", .ascending)] := by
    decide +kernel
  have isSorted : mixedOrdering.options.sort = some _ := rfl
  exact ⟨((read _).mp keys).resolve_right fun none => List.cons_ne_nil _ _ none.2, _, isSorted,
    laidOut _ isSorted⟩

end RecordGraph
