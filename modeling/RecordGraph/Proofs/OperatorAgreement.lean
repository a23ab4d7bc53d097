import RecordGraph.Proofs.RelationQueries

/-!
# Operators that agree

A store evaluates bare values, native operators and groups of alternatives each in a way of its
own.  The ways agree on every value of a field, a list, null and a missing one among them: a list
of operands is the group of its items, and a bound that may be reached is a bound that may not, or
an equality.
-/

namespace RecordGraph

/-! ## Filters with one condition -/

/-- A filter with one native operator asks for what the operator means. -/
theorem satisfies_operator_iff {field : String} (noGroup : field ≠ alternativesKey)
    (operator : Operator) {key : String} (native : operator.key? = some key) (operand : Value)
    (record : Document) :
    satisfies record [(field, .object [(key, operand)])] = true ↔
      operator.Holds (record.read? field) operand := by
  have nativeKeys : ∀ entry ∈ [(key, operand)],
      ∃ operator : Operator, operator.key? = some entry.1 := by
    rw [List.forall_mem_singleton]
    exact ⟨operator, native⟩
  rw [satisfies_single, if_neg noGroup,
    satisfiesCondition_operators (List.cons_ne_nil _ _) nativeKeys, List.forall_mem_singleton]
  exact satisfiesOperator_iff native (record.read? field) operand

/-- A group asks for one of its filters. -/
theorem satisfies_alternatives_iff {α : Type} (items : List α) (filter : α → Document)
    (record : Document) :
    satisfies record [(alternativesKey, .array (items.map fun item => .object (filter item)))] =
        true ↔
      ∃ item ∈ items, satisfies record (filter item) = true := by
  rw [satisfies_single, if_pos rfl, satisfiesGroup, satisfiesSome_iff]
  simp only [List.mem_map, exists_exists_and_eq_and]
  rfl

/-! ## Lists of operands -/

theorem listedIn_array_iff (field : Option Value) (values : List Value) :
    ListedIn field (.array values) ↔ ∃ value ∈ values, IsOrContains field value := by
  constructor
  · intro listed
    cases listed with
    | intro member found => exact ⟨_, member, found⟩
  · rintro ⟨value, member, found⟩
    exact .intro member found

section Membership

variable {field : String} {values : List Value}

/-- Not to be listed is to be different from every listed value. -/
theorem satisfies_notMember_iff (noGroup : field ≠ alternativesKey) (values : List Value)
    (record : Document) :
    satisfies record [(field, .object [("$nin", .array values)])] = true ↔
      ∀ value ∈ values, satisfies record [(field, .object [("$ne", value)])] = true := by
  have different : ∀ value, satisfies record [(field, .object [("$ne", value)])] = true ↔
      ¬ IsOrContains (record.read? field) value :=
    fun value => satisfies_operator_iff noGroup .notEqual rfl value record
  rw [satisfies_operator_iff noGroup .notMember rfl, Operator.Holds,
    listedIn_array_iff]
  simp only [different, not_exists, not_and]

/-- To be listed is to be one of the values, each asked for alone. -/
theorem satisfies_member_iff_point (noGroup : field ≠ alternativesKey)
    (literal : ∀ value ∈ values, ¬ value.ReadsAsOperators) (record : Document) :
    satisfies record [(field, .object [("$in", .array values)])] = true ↔
      ∃ value ∈ values, satisfies record [(field, value)] = true := by
  rw [satisfies_operator_iff noGroup .member rfl, Operator.Holds, listedIn_array_iff]
  refine exists_congr fun value => and_congr_right fun member => ?_
  exact (satisfies_point_iff noGroup (literal value member) record).symm

/-- One query for several keys finds the stored records that the queries for the single keys
find. -/
theorem answer_member_eq_filter (noGroup : field ≠ alternativesKey)
    (literal : ∀ value ∈ values, ¬ value.ReadsAsOperators) (store : Store) (collection : String) :
    (store.answer (.fetch collection (Task.criterion field "in" (.array values)) none)).1 =
      (store.records collection).filter fun record => values.any fun value =>
        record ∈
          (store.answer (.fetch collection (Task.criterion field "==" value) none)).1 := by
  have member : Comparator.ofToken? "in" = some ⟨.member, false⟩ := by decide
  have equality : Comparator.ofToken? "==" = some ⟨.equal, false⟩ := by decide
  show (Call.fetch collection (Task.criterion field "in" (.array values)) none).answer
    (store.records collection) = _
  rw [Call.answer_fetch_criterion member]
  apply List.filter_congr
  intro record stored
  have alone : ∀ value, record ∈
      (store.answer (.fetch collection (Task.criterion field "==" value) none)).1 ↔
        satisfies record [(field, value)] = true := by
    intro value
    show record ∈ (Call.fetch collection (Task.criterion field "==" value) none).answer
      (store.records collection) ↔ _
    rw [Call.answer_fetch_criterion equality, List.mem_filter, and_iff_right stored]
    rfl
  rw [Bool.eq_iff_iff, List.any_eq_true]
  simp only [decide_eq_true_eq, alone]
  exact satisfies_member_iff_point noGroup literal record

end Membership

/-- A list of operands asks for none of them if its negation does not ask for one, which is to
differ from each.  It asks for what the group of its items does, none of which may be read as
native operators; so one query for several keys finds what the queries for each key find. -/
theorem membership_as_alternatives {field : String} (noGroup : field ≠ "$or")
    (values : List Value) :
    (∀ record,
      (satisfies record [(field, .object [("$nin", .array values)])] = true ↔
        ¬ satisfies record [(field, .object [("$in", .array values)])] = true) ∧
      (satisfies record [(field, .object [("$nin", .array values)])] = true ↔
        ∀ value ∈ values, satisfies record [(field, .object [("$ne", value)])] = true)) ∧
    ((∀ value ∈ values, ¬ value.ReadsAsOperators) →
      (∀ record,
        satisfies record [(field, .object [("$in", .array values)])] = true ↔
          satisfies record
            [("$or", .array (values.map fun value => .object [(field, value)]))] = true) ∧
      ∀ (store : Store) (collection : String),
        (store.answer (.fetch collection (Task.criterion field "in" (.array values)) none)).1 =
          (store.records collection).filter fun record => values.any fun value =>
            record ∈
              (store.answer (.fetch collection (Task.criterion field "==" value) none)).1) := by
  refine ⟨fun record => ⟨?_, satisfies_notMember_iff noGroup values record⟩, ?_⟩
  · rw [satisfies_operator_iff noGroup .notMember rfl,
      satisfies_operator_iff noGroup .member rfl]
    rfl
  · intro literal
    refine ⟨?_, answer_member_eq_filter noGroup literal⟩
    intro record
    rw [satisfies_member_iff_point noGroup literal]
    exact (satisfies_alternatives_iff values (fun value => [(field, value)]) record).symm

/-- Keys that are no plain texts or numbers. -/
def oddKeys : List Value := [.null, .array [.string "b"], .object []]

/-- Notes with nested tags, with one tag and with none. -/
def taggedNotes : List Document :=
  [[("tags", .array [.string "a", .array [.string "b"]])], [("tags", .string "b")], []]

theorem membership_as_alternatives_odd :
    (satisfies [("tags", .string "b")] [("tags", .object [("$nin", .array oddKeys)])] = true ↔
        ∀ key ∈ oddKeys, satisfies [("tags", .string "b")]
          [("tags", .object [("$ne", key)])] = true) ∧
      (satisfies [] [("tags", .object [("$in", .array oddKeys)])] = true ↔
        satisfies [] [("$or", .array (oddKeys.map fun key => .object [("tags", key)]))] = true) ∧
      (Store.answer ⟨[("notes", taggedNotes)], [], []⟩
        (.fetch "notes" (Task.criterion "tags" "in" (.array oddKeys)) none)).1 =
          [[("tags", .array [.string "a", .array [.string "b"]])], []] := by
  have literal : ∀ key ∈ oddKeys, ¬ key.ReadsAsOperators := by
    intro key member reads
    obtain ⟨entries, rfl, marked⟩ := reads
    have empty : entries = [] := by simpa [oddKeys] using member
    rw [empty] at marked
    cases marked
  have noGroup : "tags" ≠ "$or" := by decide
  obtain ⟨negated, asked⟩ := membership_as_alternatives noGroup oddKeys
  obtain ⟨grouped, found⟩ := asked literal
  exact ⟨(negated _).2, grouped [], (found _ "notes").trans (by decide +kernel)⟩

/-! ## Bounds -/

/-- A number, a text or a truth value; such values are ordered among their own kind. -/
def Value.IsOrdered (value : Value) : Prop :=
  value.kind ∈ [Kind.number, .string, .boolean]

namespace Value

variable {held operand : Value}

/-- What is equal to an ordered operand does not differ from it in order. -/
theorem equal_iff_compare? (ordered : operand.IsOrdered) (held : Value) :
    held.equal operand = true ↔ held.compare? operand = some .eq := by
  cases operand with
  | number numeral =>
      cases held with
      | number other =>
          simp [equal, compare?, Number.equal, Number.compare, Double.equal, Double.compare]
      | _ => simp [equal, same, compare?]
  | string text => cases held <;> simp [equal, same, compare?]
  | bool truth => cases held <;> simp [equal, same, compare?]
  | _ => simp [IsOrdered, kind] at ordered

theorem kind_of_equal (ordered : operand.IsOrdered) (sameValue : held.equal operand = true) :
    held.kind = operand.kind := by
  rw [equal_iff_compare? ordered] at sameValue
  cases held <;> cases operand <;> first | rfl | cases sameValue

theorem exists_compare? (ordered : operand.IsOrdered) (sameKind : held.kind = operand.kind) :
    ∃ order, held.compare? operand = some order := by
  cases held <;> cases operand <;> first | exact ⟨_, rfl⟩ | simp_all [IsOrdered, kind]

theorem comparands_of_isOrdered (ordered : held.IsOrdered) : comparands (some held) = [held] := by
  cases held with
  | array items => simp [IsOrdered, kind] at ordered
  | _ => rfl

end Value

/-- A field is or contains an ordered operand if a value of the field is on a level with it. -/
theorem isOrContains_iff_compares {operand : Value} (ordered : operand.IsOrdered)
    (field : Option Value) : IsOrContains field operand ↔ Compares [.eq] field operand := by
  have level : Compares [.eq] field operand ↔
      ∃ held ∈ comparands field, held.equal operand = true := by
    simp only [Compares, List.mem_singleton, exists_eq_left, Value.equal_iff_compare? ordered]
  rw [level]
  constructor
  · intro found
    cases found with
    | missing => simp [Value.IsOrdered, Value.kind] at ordered
    | @whole held _ sameValue =>
        have heldOrdered : held.IsOrdered := by
          rwa [Value.IsOrdered, Value.kind_of_equal ordered sameValue]
        rw [Value.comparands_of_isOrdered heldOrdered]
        exact ⟨held, List.mem_singleton_self held, sameValue⟩
    | item member sameValue => exact ⟨_, member, sameValue⟩
  · rintro ⟨held, member, sameValue⟩
    rcases field with _ | whole
    · simp [comparands] at member
    · cases whole with
      | array items => exact .item member sameValue
      | _ =>
          obtain rfl := List.mem_singleton.mp member
          exact .whole sameValue

theorem compares_cons_iff (order : Ordering) (accepted : List Ordering) (field : Option Value)
    (operand : Value) :
    Compares (order :: accepted) field operand ↔
      Compares [order] field operand ∨ Compares accepted field operand := by
  simp only [Compares, List.mem_cons, List.not_mem_nil, or_false, or_and_right, exists_or,
    and_or_left]

/-- A value of the kind of an ordered operand stands to it in one order. -/
theorem exists_compares_iff {held operand : Value} (ordered : operand.IsOrdered)
    (sameKind : held.kind = operand.kind) :
    ∃ order, ∀ other, Compares [other] (some held) operand ↔ order = other := by
  have heldOrdered : held.IsOrdered := by rwa [Value.IsOrdered, sameKind]
  obtain ⟨order, compared⟩ := Value.exists_compare? ordered sameKind
  refine ⟨order, fun other => ?_⟩
  simp [Compares, Value.comparands_of_isOrdered heldOrdered, compared]

section Bounds

variable {field : String} {operand : Value} (noGroup : field ≠ alternativesKey)
  (ordered : operand.IsOrdered)

include noGroup ordered

theorem satisfies_ordered_iff (record : Document) :
    satisfies record [(field, operand)] = true ↔ Compares [.eq] (record.read? field) operand := by
  have literal : ¬ operand.ReadsAsOperators := by
    rintro ⟨entries, rfl, _⟩
    simp [Value.IsOrdered, Value.kind] at ordered
  rw [satisfies_point_iff noGroup literal, isOrContains_iff_compares ordered]

/-- A bound that may be reached is a bound that may not, or an equality. -/
theorem satisfies_reachable_bound_iff (reached passed : Operator) {reachedKey passedKey : String}
    (reachedNative : reached.key? = some reachedKey) (passedNative : passed.key? = some passedKey)
    {order : Ordering} (reachedMeans : reached.Holds = Compares [order, .eq])
    (passedMeans : passed.Holds = Compares [order]) (record : Document) :
    satisfies record [(field, .object [(reachedKey, operand)])] = true ↔
      satisfies record [(field, .object [(passedKey, operand)])] = true ∨
        satisfies record [(field, operand)] = true := by
  rw [satisfies_operator_iff noGroup reached reachedNative,
    satisfies_operator_iff noGroup passed passedNative, satisfies_ordered_iff noGroup ordered,
    reachedMeans, passedMeans, compares_cons_iff]

/-- A field with a value of the kind of an operand is below it, equal to it or above it, and only
one of these. -/
theorem countP_satisfies_orders {record : Document} {held : Value}
    (holds : record.read? field = some held) (sameKind : held.kind = operand.kind) :
    List.countP (satisfies record)
      [[(field, .object [("$lt", operand)])], [(field, operand)],
        [(field, .object [("$gt", operand)])]] = 1 := by
  obtain ⟨order, onlyOne⟩ := exists_compares_iff ordered sameKind
  have below : satisfies record [(field, .object [("$lt", operand)])] = true ↔ order = .lt := by
    rw [satisfies_operator_iff noGroup .less rfl, holds]
    exact onlyOne .lt
  have level : satisfies record [(field, operand)] = true ↔ order = .eq := by
    rw [satisfies_ordered_iff noGroup ordered, holds]
    exact onlyOne .eq
  have above : satisfies record [(field, .object [("$gt", operand)])] = true ↔ order = .gt := by
    rw [satisfies_operator_iff noGroup .greater rfl, holds]
    exact onlyOne .gt
  simp only [List.countP_cons, List.countP_nil, below, level, above]
  cases order <;> rfl

end Bounds

/-- A bound that may be reached is a bound that may not, or an equality, whatever a field holds.
A field with one value of the kind of the operand is below it, equal to it or above it, and
only one of these. -/
theorem bounds_agree_with_equality {field : String} (noGroup : field ≠ "$or") {operand : Value}
    (ordered : operand.kind ∈ [Value.Kind.number, .string, .boolean]) (record : Document) :
    (satisfies record [(field, .object [("$gte", operand)])] = true ↔
      satisfies record [(field, .object [("$gt", operand)])] = true ∨
        satisfies record [(field, operand)] = true) ∧
    (satisfies record [(field, .object [("$lte", operand)])] = true ↔
      satisfies record [(field, .object [("$lt", operand)])] = true ∨
        satisfies record [(field, operand)] = true) ∧
    ∀ held, record.read? field = some held → held.kind = operand.kind →
      List.countP (satisfies record)
        [[(field, .object [("$lt", operand)])], [(field, operand)],
          [(field, .object [("$gt", operand)])]] = 1 := by
  refine ⟨?_, ?_, fun _ => countP_satisfies_orders noGroup ordered⟩
  · exact satisfies_reachable_bound_iff noGroup ordered .greaterOrEqual .greater rfl rfl rfl rfl
      record
  · exact satisfies_reachable_bound_iff noGroup ordered .lessOrEqual .less rfl rfl rfl rfl record

/-- Marks of several kinds, one of them in a list of its own. -/
def mixedMarks : Document :=
  [("marks", .array [.string "z", .number (.ofNat 3), .array [.number (.ofNat 4)]])]

/-- A list reaches a bound by one of its items, and a double of zero is a whole number. -/
theorem bounds_agree_with_equality_mixed :
    (satisfies mixedMarks [("marks", .object [("$gte", .number (.ofNat 3))])] = true ↔
      satisfies mixedMarks [("marks", .object [("$gt", .number (.ofNat 3))])] = true ∨
        satisfies mixedMarks [("marks", .number (.ofNat 3))] = true) ∧
      List.countP (satisfies [("mark", .number (.double .zero))])
        [[("mark", .object [("$lt", .number (.ofNat 0))])], [("mark", .number (.ofNat 0))],
          [("mark", .object [("$gt", .number (.ofNat 0))])]] = 1 := by
  have numberOrdered : ∀ number : Number, (Value.number number).kind ∈
      [Value.Kind.number, .string, .boolean] := fun _ => List.mem_cons_self
  obtain ⟨reached, _⟩ := bounds_agree_with_equality (by decide : "marks" ≠ "$or")
    (numberOrdered (.ofNat 3)) mixedMarks
  obtain ⟨_, _, single⟩ := bounds_agree_with_equality (by decide : "mark" ≠ "$or")
    (numberOrdered (.ofNat 0)) [("mark", .number (.double .zero))]
  exact ⟨reached, single _ rfl rfl⟩

end RecordGraph
