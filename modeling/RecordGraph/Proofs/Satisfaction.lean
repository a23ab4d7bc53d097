import RecordGraph.Query.Operator
import RecordGraph.Store.Match

/-!
# What operators mean

Satisfaction of one operator is described on the value of a field, without
reference to filters, and the evaluation of native operators is shown to decide
it.
-/

namespace RecordGraph

/-! ## Equality, comparison and membership -/

/-- A field is a value, or is a list with the value among its items.  A missing
field is null. -/
inductive IsOrContains : Option Value → Value → Prop
  | missing : IsOrContains none .null
  | whole {held expected : Value} :
      held.equal expected = true → IsOrContains (some held) expected
  | item {items : List Value} {item expected : Value} :
      item ∈ items → item.equal expected = true →
        IsOrContains (some (.array items)) expected

/-- The values of a field that can be compared: the items of a list, or the
value itself. -/
def comparands : Option Value → List Value
  | none => []
  | some (.array items) => items
  | some held => [held]

/-- Some value of a field stands to an operand in one of the given orders. -/
def Compares (accepted : List Ordering) (field : Option Value) (operand : Value) : Prop :=
  ∃ held ∈ comparands field, ∃ order ∈ accepted, held.compare? operand = some order

/-- A field is or contains a value that the operand lists. -/
inductive ListedIn (field : Option Value) : Value → Prop
  | intro {candidates : List Value} {candidate : Value} :
      candidate ∈ candidates → IsOrContains field candidate →
        ListedIn field (.array candidates)

/-- A field satisfies an operator. -/
def Operator.Holds (operator : Operator) (field : Option Value) (operand : Value) : Prop :=
  match operator with
  | .equal => IsOrContains field operand
  | .notEqual => ¬ IsOrContains field operand
  | .greater => Compares [.gt] field operand
  | .greaterOrEqual => Compares [.gt, .eq] field operand
  | .less => Compares [.lt] field operand
  | .lessOrEqual => Compares [.lt, .eq] field operand
  | .member => ListedIn field operand
  | .notMember => ¬ ListedIn field operand

/-! ## Evaluation decides satisfaction -/

theorem equalsOrContains_iff (field : Option Value) (expected : Value) :
    equalsOrContains field expected = true ↔ IsOrContains field expected := by
  constructor
  · intro evaluated
    unfold equalsOrContains at evaluated
    split at evaluated
    · obtain rfl : expected = .null := by simpa using evaluated
      exact .missing
    · rw [Bool.or_eq_true] at evaluated
      rcases evaluated with isWhole | isItem
      · exact .whole isWhole
      · obtain ⟨item, member, isEqual⟩ := List.any_eq_true.mp isItem
        exact .item member isEqual
    · exact .whole evaluated
  · intro satisfied
    cases satisfied with
    | missing => rfl
    | @whole held _ isEqual =>
        cases held <;> simp [equalsOrContains, isEqual]
    | item member isEqual =>
        simp only [equalsOrContains, Bool.or_eq_true]
        exact Or.inr (List.any_eq_true.mpr ⟨_, member, isEqual⟩)

theorem comparesAny_eq (accept : Ordering → Bool) (field : Option Value) (operand : Value) :
    comparesAny accept field operand =
      (comparands field).any fun held => ((held.compare? operand).map accept).getD false := by
  rcases field with _ | held
  · rfl
  · cases held <;> simp [comparesAny, comparands]

theorem comparesAny_iff {accept : Ordering → Bool} {accepted : List Ordering}
    (agree : ∀ order, accept order = true ↔ order ∈ accepted)
    (field : Option Value) (operand : Value) :
    comparesAny accept field operand = true ↔ Compares accepted field operand := by
  rw [comparesAny_eq, List.any_eq_true]
  refine exists_congr fun held => and_congr_right fun _ => ?_
  cases compared : held.compare? operand with
  | none => simp
  | some order => simp [agree]

theorem inList_iff (field : Option Value) (operand : Value) :
    inList field operand = true ↔ ListedIn field operand := by
  constructor
  · intro evaluated
    unfold inList at evaluated
    split at evaluated
    · obtain ⟨candidate, member, held⟩ := List.any_eq_true.mp evaluated
      exact .intro member ((equalsOrContains_iff field candidate).mp held)
    · simp at evaluated
  · intro satisfied
    cases satisfied with
    | intro member held =>
        exact List.any_eq_true.mpr ⟨_, member, (equalsOrContains_iff field _).mpr held⟩

/-- A native operator key is evaluated as the operator it stands for. -/
theorem satisfiesOperator_iff {operator : Operator} {key : String}
    (native : operator.key? = some key) (field : Option Value) (operand : Value) :
    satisfiesOperator field key operand = true ↔ operator.Holds field operand := by
  have greater : comparesAny Ordering.isGT field operand = true ↔ Compares [.gt] field operand :=
    comparesAny_iff (by intro order; cases order <;> decide) field operand
  have greaterOrEqual :
      comparesAny Ordering.isGE field operand = true ↔ Compares [.gt, .eq] field operand :=
    comparesAny_iff (by intro order; cases order <;> decide) field operand
  have less : comparesAny Ordering.isLT field operand = true ↔ Compares [.lt] field operand :=
    comparesAny_iff (by intro order; cases order <;> decide) field operand
  have lessOrEqual :
      comparesAny Ordering.isLE field operand = true ↔ Compares [.lt, .eq] field operand :=
    comparesAny_iff (by intro order; cases order <;> decide) field operand
  cases operator <;> simp only [Operator.key?, reduceCtorEq, Option.some.injEq] at native <;>
    subst native <;>
    simp [satisfiesOperator, Operator.Holds, greater, greaterOrEqual, less, lessOrEqual,
      ← equalsOrContains_iff, ← inList_iff]

/-! ## Filters as conjunctions -/

theorem satisfies_iff (record filter : Document) :
    satisfies record filter = true ↔
      ∀ entry ∈ filter,
        (if entry.1 = alternativesKey then satisfiesGroup record entry.2
          else satisfiesCondition (record.read? entry.1) entry.2) = true := by
  induction filter with
  | nil => simp [satisfies]
  | cons entry rest inductionHypothesis =>
      rcases entry with ⟨key, condition⟩
      simp only [satisfies, Bool.and_eq_true, List.forall_mem_cons, inductionHypothesis]

theorem satisfiesSome_iff (record : Document) (terms : List Value) :
    satisfiesSome record terms = true ↔
      ∃ term ∈ terms, satisfiesTerm record term = true := by
  induction terms with
  | nil => simp [satisfiesSome]
  | cons term rest inductionHypothesis =>
      simp [satisfiesSome, inductionHypothesis]

/-- A value that is read as native operators where a condition stands. -/
def Value.ReadsAsOperators (value : Value) : Prop :=
  ∃ entries, value = .object entries ∧ isOperatorDocument entries = true

theorem satisfiesCondition_of_literal {condition : Value}
    (literal : ¬ condition.ReadsAsOperators) (field : Option Value) :
    satisfiesCondition field condition = true ↔ IsOrContains field condition := by
  rw [← equalsOrContains_iff]
  cases condition with
  | object entries =>
      have noOperators : isOperatorDocument entries = false := by
        rw [← Bool.not_eq_true]
        exact fun operators => literal ⟨entries, rfl, operators⟩
      simp [satisfiesCondition, noOperators]
  | _ => rfl

/-- A document of native operators is satisfied when each operator is. -/
theorem satisfiesCondition_operators {entries : Document} (nonempty : entries ≠ [])
    (native : ∀ entry ∈ entries, ∃ operator : Operator, operator.key? = some entry.1)
    (field : Option Value) :
    satisfiesCondition field (.object entries) = true ↔
      ∀ entry ∈ entries, satisfiesOperator field entry.1 entry.2 = true := by
  have marked : isOperatorDocument entries = true := by
    simp only [isOperatorDocument, Bool.and_eq_true, Bool.not_eq_true', List.isEmpty_eq_false_iff,
      List.all_eq_true]
    refine ⟨nonempty, fun entry member => ?_⟩
    obtain ⟨operator, keyed⟩ := native entry member
    cases operator <;> simp only [Operator.key?, reduceCtorEq, Option.some.injEq] at keyed <;>
      rw [← keyed] <;> decide
  simp [satisfiesCondition, marked]

end RecordGraph
