import Mathlib
import RecordGraph.Proofs.FilterMeaning

/-!
# Several operators on one field

The comparisons that a criterion asks of one field become entries of one document of native
operators.  An operator has one key there, however many tokens it has, so that the last one
of several tokens for the same operator takes the place of those before it.  Of the
comparisons only the inequality has several tokens.
-/

namespace RecordGraph

/-! ## Comparisons on one field -/

/-- The query that asks some operators of one field. -/
def Selection.asking (field : String) (operators : Document) : Selection :=
  ⟨[("where", .object [(field, .object operators)])]⟩

/-- All tokens are known, and none of them marks an alternative or stands for equality. -/
def Document.Comparisons (operators : Document) : Prop :=
  ∀ entry ∈ operators, ∃ operator : Operator,
    Comparator.ofToken? entry.1 = some ⟨operator, false⟩ ∧ operator ≠ .equal

/-- An entry lasts if no later one asks for the same operator. -/
inductive Document.Lasts : Document → String × Value → Prop
  | intro (earlier later : Document) (entry : String × Value) :
      (∀ next ∈ later, Comparator.ofToken? next.1 ≠ Comparator.ofToken? entry.1) →
        Lasts (earlier ++ entry :: later) entry

theorem Document.Lasts.mem {operators : Document} {entry : String × Value}
    (lasts : operators.Lasts entry) : entry ∈ operators := by
  cases lasts
  simp

theorem Document.lasts_singleton (entry : String × Value) :
    Document.Lasts [entry] entry :=
  .intro [] [] entry (by simp)

theorem mem_operations_iff (alternative : Bool) (tokens : Document) (operation : Operator × Value) :
    operation ∈ operations alternative tokens ↔
      ∃ entry ∈ tokens, Comparator.ofToken? entry.1 = some ⟨operation.1, alternative⟩ ∧
        entry.2 = operation.2 := by
  simp only [operations, List.mem_filterMap]
  refine exists_congr fun entry => and_congr_right fun _ => ?_
  rcases Comparator.ofToken? entry.1 with _ | ⟨operator, marked⟩
  · simp
  · simp only [Option.ite_none_right_eq_some, Option.some.injEq, Comparator.mk.injEq,
      Prod.ext_iff]
    rw [← and_assoc, and_comm (a := marked = alternative)]

theorem Document.Comparisons.operator_ne_equal {operators : Document}
    (comparisons : operators.Comparisons) {entry : String × Value} (member : entry ∈ operators)
    {operator : Operator} {alternative : Bool}
    (read : Comparator.ofToken? entry.1 = some ⟨operator, alternative⟩) : operator ≠ .equal := by
  obtain ⟨known, readKnown, notEqual⟩ := comparisons entry member
  rw [read, Option.some.injEq, Comparator.mk.injEq] at readKnown
  rw [readKnown.1]
  exact notEqual

/-! ## The comparisons that count -/

theorem exists_lasts_of_effective {operators : Document} (comparisons : operators.Comparisons)
    {operation : Operator × Value} (counts : Effective (operations false operators) operation) :
    ∃ entry, operators.Lasts entry ∧
      Comparator.ofToken? entry.1 = some ⟨operation.1, false⟩ ∧ entry.2 = operation.2 := by
  generalize performed : operations false operators = all at counts
  cases counts with
  | equality earlier operand =>
      have last : (Operator.equal, operand) ∈ operations false operators := by
        rw [performed]
        simp
      obtain ⟨entry, member, isEqual, _⟩ := (mem_operations_iff false operators _).mp last
      exact absurd rfl (comparisons.operator_ne_equal member isEqual)
  | comparison earlier later operator operand notEqual kept =>
      obtain ⟨before, rest, rfl, _, fromHere⟩ := List.filterMap_eq_append_iff.mp performed
      obtain ⟨skipped, entry, after, rfl, _, here, fromAfter⟩ :=
        List.filterMap_eq_cons_iff.mp fromHere
      have performedHere : (operator, operand) ∈ operations false [entry] :=
        List.mem_filterMap.mpr ⟨entry, List.mem_singleton_self entry, here⟩
      obtain ⟨only, isOnly, read, sameOperand⟩ :=
        (mem_operations_iff false [entry] _).mp performedHere
      rw [List.mem_singleton] at isOnly
      subst isOnly
      refine ⟨only, ?_, read, sameOperand⟩
      rw [← List.append_assoc]
      apply Document.Lasts.intro
      intro next member sameComparator
      have performedLater : (operator, next.2) ∈ later := by
        rw [← fromAfter]
        exact (mem_operations_iff false after _).mpr
          ⟨next, member, sameComparator.trans read, rfl⟩
      exact (kept _ performedLater).2 rfl

theorem effective_of_lasts {operators : Document} (comparisons : operators.Comparisons)
    {entry : String × Value} (lasts : operators.Lasts entry) {operator : Operator}
    (read : Comparator.ofToken? entry.1 = some ⟨operator, false⟩) :
    Effective (operations false operators) (operator, entry.2) := by
  have notEqual := comparisons.operator_ne_equal lasts.mem read
  cases lasts with
  | intro earlier later _ kept =>
      have performed : operations false (earlier ++ entry :: later) =
          operations false earlier ++ (operator, entry.2) :: operations false later := by
        simp [operations, read]
      rw [performed]
      apply Effective.comparison _ _ _ _ notEqual
      intro next member
      obtain ⟨other, isLater, readOther, _⟩ := (mem_operations_iff false later next).mp member
      constructor
      · exact comparisons.operator_ne_equal (by simp [isLater]) readOther
      · intro sameOperator
        apply kept other isLater
        rw [readOther, read, sameOperator]

/-! ## Asking comparisons of one field -/

theorem Selection.criteria_asking (field : String) (operators : Document) :
    (asking field operators).criteria = [(field, operators)] := by
  rw [criteria_of_where rfl (by simp [asking, isReserved, reserved])]
  rfl

theorem Selection.asks_asking_iff (field asked : String) (operators tokens : Document) :
    (asking field operators).Asks asked tokens ↔ asked = field ∧ tokens = operators := by
  rw [asks_iff, criteria_asking, List.mem_singleton, Prod.mk.injEq]

theorem Document.Comparisons.alternatives_eq_nil {operators : Document}
    (comparisons : operators.Comparisons) : operations true operators = [] := by
  apply List.eq_nil_iff_forall_not_mem.mpr
  intro operation performed
  obtain ⟨entry, member, read, _⟩ := (mem_operations_iff true operators operation).mp performed
  obtain ⟨operator, readPlain, _⟩ := comparisons entry member
  rw [read] at readPlain
  cases readPlain

/-- A query for comparisons on one field wants the records for which those of the lasting
entries hold. -/
theorem satisfies_asking_iff {field : String} (noGroup : field ≠ "$or") {operators : Document}
    (comparisons : operators.Comparisons) (record : Document) :
    satisfies record (Selection.asking field operators).filter = true ↔
      ∀ entry, operators.Lasts entry → ∀ operator : Operator,
        Comparator.ofToken? entry.1 = some ⟨operator, false⟩ →
          operator.Holds (record.read? field) entry.2 := by
  have noTerms : alternativeTerms (Selection.asking field operators).criteria = [] := by
    apply alternativeTerms_eq_nil_iff.mpr
    intro asked tokens asks
    obtain ⟨_, rfl⟩ := (Selection.asks_asking_iff field asked operators tokens).mp asks
    exact comparisons.alternatives_eq_nil
  rw [Selection.filter_of_no_terms noTerms, satisfies_plainConditions_iff record]
  · simp only [Selection.asks_asking_iff, and_imp, forall_eq_apply_imp_iff, forall_eq]
    constructor
    · intro held entry lasts operator read
      exact held _ (effective_of_lasts comparisons lasts read)
    · intro held operation counts
      obtain ⟨entry, lasts, read, sameOperand⟩ := exists_lasts_of_effective comparisons counts
      exact sameOperand ▸ held entry lasts operation.1 read
  · intro asked tokens asks
    exact ((Selection.asks_asking_iff field asked operators tokens).mp asks).1 ▸ noGroup
  · intro asked tokens asks operand performed
    obtain ⟨_, rfl⟩ := (Selection.asks_asking_iff field asked operators tokens).mp asks
    obtain ⟨entry, member, read, _⟩ := (mem_operations_iff false tokens _).mp performed
    exact absurd rfl (comparisons.operator_ne_equal member read)

/-- One comparison is wanted where it holds. -/
theorem satisfies_asking_singleton_iff {field : String} (noGroup : field ≠ "$or")
    {entry : String × Value} {operator : Operator}
    (read : Comparator.ofToken? entry.1 = some ⟨operator, false⟩) (notEqual : operator ≠ .equal)
    (record : Document) :
    satisfies record (Selection.asking field [entry]).filter = true ↔
      operator.Holds (record.read? field) entry.2 := by
  have comparisons : Document.Comparisons [entry] := by
    intro only member
    rw [List.mem_singleton.mp member]
    exact ⟨operator, read, notEqual⟩
  rw [satisfies_asking_iff noGroup comparisons]
  constructor
  · intro held
    exact held entry (Document.lasts_singleton entry) operator read
  · intro held only lasts other readOther
    obtain rfl := List.mem_singleton.mp lasts.mem
    rw [read, Option.some.injEq, Comparator.mk.injEq] at readOther
    rw [← readOther.1]
    exact held

/-! ## Tokens of one operator -/

theorem Operator.mem_table_of_ofToken? {token : String} {operator : Operator}
    (read : ofToken? token = some operator) : (token, operator) ∈ table := by
  obtain ⟨before, after, split, _⟩ := List.lookup_eq_some_iff.mp read
  rw [split]
  simp

theorem Operator.mem_table_of_comparator {token : String} {operator : Operator}
    (read : Comparator.ofToken? token = some ⟨operator, false⟩) : (token, operator) ∈ table := by
  unfold Comparator.ofToken? at read
  split at read
  · simp at read
  · obtain ⟨known, readKnown, same⟩ := Option.map_eq_some_iff.mp read
    rw [Comparator.mk.injEq] at same
    exact mem_table_of_ofToken? (same.1 ▸ readKnown)

/-- Operators other than equality and inequality have one token each. -/
theorem Operator.token_eq_of_comparator {first second : String} {operator : Operator}
    (notEqual : operator ≠ .equal) (noInequality : operator ≠ .notEqual)
    (read : Comparator.ofToken? first = some ⟨operator, false⟩)
    (readOther : Comparator.ofToken? second = some ⟨operator, false⟩) : first = second := by
  have oneToken : ∀ entry ∈ table, ∀ other ∈ table, entry.2 = other.2 →
      entry.2 ≠ .equal → entry.2 ≠ .notEqual → entry.1 = other.1 := by
    decide
  exact oneToken _ (mem_table_of_comparator read) _ (mem_table_of_comparator readOther) rfl
    notEqual noInequality

/-- Where the keys of an object differ, only an inequality is ever replaced by a later entry,
and that asks for another inequality. -/
theorem Document.Comparisons.replaced {operators : Document}
    (comparisons : operators.Comparisons) (unique : operators.UniqueKeys)
    {entry : String × Value} (member : entry ∈ operators) (replaced : ¬ operators.Lasts entry) :
    Comparator.ofToken? entry.1 = some ⟨.notEqual, false⟩ ∧
      ∃ other, List.Sublist [entry, other] operators ∧ other.1 ≠ entry.1 ∧
        Comparator.ofToken? other.1 = some ⟨.notEqual, false⟩ := by
  obtain ⟨earlier, later, rfl⟩ := List.append_of_mem member
  obtain ⟨next, isLater, sameComparator⟩ : ∃ next ∈ later,
      Comparator.ofToken? next.1 = Comparator.ofToken? entry.1 := by
    simpa using fun kept => replaced (.intro earlier later entry kept)
  obtain ⟨operator, read, notEqual⟩ := comparisons entry member
  have readNext := sameComparator.trans read
  have otherToken : next.1 ≠ entry.1 := by
    intro sameToken
    have fresh : entry.1 ∉ later.map Prod.fst := by
      have tail := (List.nodup_append.mp ((List.map_append ▸ unique :
        (earlier.map Prod.fst ++ (entry :: later).map Prod.fst).Nodup))).2.1
      exact (List.nodup_cons.mp tail).1
    exact fresh (sameToken ▸ List.mem_map_of_mem isLater)
  have standsAfter : List.Sublist [entry, next] (earlier ++ entry :: later) :=
    ((List.singleton_sublist.mpr isLater).cons_cons entry).trans (List.sublist_append_right _ _)
  by_cases inequality : operator = .notEqual
  · subst inequality
    exact ⟨read, next, standsAfter, otherToken, readNext⟩
  · exact absurd (Operator.token_eq_of_comparator notEqual inequality readNext read) otherToken

/-! ## Operators on one field are joined -/

/-- A record satisfies a criterion of several comparisons exactly if it satisfies each of them
that no later one replaces.  All that is ever replaced is an inequality, by another one that
stands after it; so without two inequalities, a record satisfies the criterion exactly if it
satisfies every comparison on its own. -/
theorem comparisons_joined {field : String} (noGroup : field ≠ "$or") {operators : Document}
    (unique : operators.UniqueKeys) (comparisons : operators.Comparisons) (record : Document) :
    (satisfies record (Selection.asking field operators).filter = true ↔
      ∀ entry, operators.Lasts entry →
        satisfies record (Selection.asking field [entry]).filter = true) ∧
    (∀ entry ∈ operators, ¬ operators.Lasts entry →
      Comparator.ofToken? entry.1 = some ⟨.notEqual, false⟩ ∧
        ∃ other, List.Sublist [entry, other] operators ∧ other.1 ≠ entry.1 ∧
          Comparator.ofToken? other.1 = some ⟨.notEqual, false⟩) ∧
    ((∀ entry ∈ operators, ∀ other ∈ operators,
        Comparator.ofToken? entry.1 = some ⟨.notEqual, false⟩ →
        Comparator.ofToken? other.1 = some ⟨.notEqual, false⟩ → other.1 = entry.1) →
      (satisfies record (Selection.asking field operators).filter = true ↔
        ∀ entry ∈ operators,
          satisfies record (Selection.asking field [entry]).filter = true)) := by
  have joined : satisfies record (Selection.asking field operators).filter = true ↔
      ∀ entry, operators.Lasts entry →
        satisfies record (Selection.asking field [entry]).filter = true := by
    rw [satisfies_asking_iff noGroup comparisons]
    refine forall_congr' fun entry => forall_congr' fun lasts => ?_
    obtain ⟨operator, read, notEqual⟩ := comparisons entry lasts.mem
    rw [satisfies_asking_singleton_iff noGroup read notEqual]
    simp [read]
  refine ⟨joined, fun entry member => comparisons.replaced unique member, ?_⟩
  intro oneInequality
  rw [joined]
  refine forall_congr' fun entry => ?_
  constructor
  · intro held member
    by_cases lasts : operators.Lasts entry
    · exact held lasts
    · obtain ⟨read, other, standsAfter, otherToken, readOther⟩ :=
        comparisons.replaced unique member lasts
      have otherMember : other ∈ operators := standsAfter.subset (by simp)
      exact absurd (oneInequality entry member other otherMember read readOther) otherToken
  · intro held lasts
    exact held lasts.mem

/-- A greatest age and two ages that are left out, the first of which is left out no more. -/
def agesLeftOut : Document :=
  [("<", .string "d"), ("!=", .string "a"), ("!==", .string "b")]

theorem comparisons_joined_agesLeftOut :
    (satisfies [("age", .string "a")] (Selection.asking "age" agesLeftOut).filter = true ∧
      satisfies [("age", .string "a")]
        (Selection.asking "age" [("!=", .string "a")]).filter = false) ∧
    (satisfies [("age", .string "a")] (Selection.asking "age" agesLeftOut).filter = true ↔
      ∀ entry, agesLeftOut.Lasts entry →
        satisfies [("age", .string "a")] (Selection.asking "age" [entry]).filter = true) ∧
    (satisfies [("age", .string "a")]
        (Selection.asking "age" [("<", .string "d"), ("!=", .string "b")]).filter = true ↔
      ∀ entry ∈ [("<", Value.string "d"), ("!=", .string "b")],
        satisfies [("age", .string "a")] (Selection.asking "age" [entry]).filter = true) := by
  have less : ∃ operator : Operator,
      Comparator.ofToken? "<" = some ⟨operator, false⟩ ∧ operator ≠ .equal :=
    ⟨.less, by decide, by decide⟩
  have notEqual : ∀ token ∈ ["!=", "!=="], ∃ operator : Operator,
      Comparator.ofToken? token = some ⟨operator, false⟩ ∧ operator ≠ .equal := by
    have read : ∀ token ∈ ["!=", "!=="],
        Comparator.ofToken? token = some ⟨.notEqual, false⟩ := by decide
    exact fun token member => ⟨.notEqual, read token member, by decide⟩
  have comparisons : agesLeftOut.Comparisons := by
    simpa [Document.Comparisons, agesLeftOut] using ⟨less, by simpa using notEqual⟩
  have fewer : Document.Comparisons [("<", .string "d"), ("!=", .string "b")] := by
    simpa [Document.Comparisons] using ⟨less, notEqual "!=" (by simp)⟩
  have unique : agesLeftOut.UniqueKeys := by
    simp [Document.UniqueKeys, Document.keys, agesLeftOut]
  have fewerUnique : Document.UniqueKeys [("<", .string "d"), ("!=", .string "b")] := by
    simp [Document.UniqueKeys, Document.keys]
  refine ⟨⟨by cbv, by cbv⟩, ?_, ?_⟩
  · exact (comparisons_joined (by decide) unique comparisons _).1
  · exact (comparisons_joined (by decide) fewerUnique fewer _).2.2 (by decide)

end RecordGraph
