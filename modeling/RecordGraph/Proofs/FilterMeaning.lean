import RecordGraph.Proofs.Satisfaction

/-!
# What a compiled filter means

The criteria of a selection query have a meaning of their own: of the plain
operators of a field those count that no later one replaces, and of the
alternatives one has to hold.  Compiling keeps this meaning.  The demand built
for a field expresses the operators that count, which is carried from one token
to the next.
-/

namespace RecordGraph

/-! ## Operations -/

/-- The known operators among the tokens of a field, with their operands in
order: the plain ones, or those marked as alternatives. -/
def operations (alternative : Bool) (tokens : Document) : List (Operator × Value) :=
  tokens.filterMap fun entry =>
    match Comparator.ofToken? entry.1 with
    | some ⟨operator, marked⟩ => if marked = alternative then some (operator, entry.2) else none
    | none => none

/-- A plain operation counts: an equality if it comes last, and any other operator
if neither an equality nor the same operator comes after it. -/
inductive Effective : List (Operator × Value) → Operator × Value → Prop
  | equality (earlier : List (Operator × Value)) (operand : Value) :
      Effective (earlier ++ [(.equal, operand)]) (.equal, operand)
  | comparison (earlier later : List (Operator × Value)) (operator : Operator) (operand : Value) :
      operator ≠ .equal →
      (∀ next ∈ later, next.1 ≠ .equal ∧ next.1 ≠ operator) →
      Effective (earlier ++ (operator, operand) :: later) (operator, operand)

theorem mem_of_effective {performed : List (Operator × Value)} {operation : Operator × Value}
    (counts : Effective performed operation) : operation ∈ performed := by
  cases counts <;> simp

theorem not_effective_nil (operation : Operator × Value) : ¬ Effective [] operation := by
  intro counts
  simpa using mem_of_effective counts

/-- What counts of some operations when one more comes last. -/
theorem effective_concat_iff (earlier : List (Operator × Value))
    (last operation : Operator × Value) :
    Effective (earlier ++ [last]) operation ↔
      operation = last ∨
        (last.1 ≠ .equal ∧ operation.1 ≠ .equal ∧ operation.1 ≠ last.1 ∧
          Effective earlier operation) := by
  have sameLast : ∀ {before : List (Operator × Value)} {final : Operator × Value},
      earlier ++ [last] = before ++ [final] → earlier = before ∧ last = final := by
    intro before final shape
    obtain ⟨sameFront, sameEnd⟩ := List.append_inj' shape rfl
    exact ⟨sameFront, List.head_eq_of_cons_eq sameEnd⟩
  constructor
  · intro counts
    generalize shape : earlier ++ [last] = performed at counts
    cases counts with
    | equality before operand => exact Or.inl (sameLast shape).2.symm
    | comparison before later operator operand notEqual kept =>
        rcases List.eq_nil_or_concat later with nothing | ⟨front, final, isConcat⟩
        · subst nothing
          exact Or.inl (sameLast shape).2.symm
        · subst isConcat
          rw [List.concat_eq_append] at kept shape
          rw [← List.cons_append, ← List.append_assoc] at shape
          obtain ⟨sameFront, isLast⟩ := sameLast shape
          subst isLast
          obtain ⟨lastPlain, lastDiffers⟩ := kept last (by simp)
          refine Or.inr ⟨lastPlain, notEqual, fun same => lastDiffers same.symm, ?_⟩
          rw [sameFront]
          exact .comparison before front operator operand notEqual fun next member =>
            kept next (by simp [member])
  · intro found
    rcases found with isLast | ⟨lastPlain, notEqual, differs, counts⟩
    · subst isLast
      rcases operation with ⟨operator, operand⟩
      by_cases isEqual : operator = .equal
      · subst isEqual
        exact .equality earlier operand
      · exact .comparison earlier [] operator operand isEqual (by simp)
    · cases counts with
      | equality => exact absurd rfl notEqual
      | comparison before later operator operand _ kept =>
          rw [List.append_assoc, List.cons_append]
          refine .comparison before (later ++ [last]) operator operand notEqual ?_
          intro next member
          rcases List.mem_append.mp member with inLater | isFinal
          · exact kept next inLater
          · rw [List.mem_singleton.mp isFinal]
            exact ⟨lastPlain, fun same => differs same.symm⟩

/-! ## Demands express effective operations -/

theorem Operator.key?_injective {left right : Operator} {key : String}
    (leftKey : left.key? = some key) (rightKey : right.key? = some key) : left = right := by
  have sameKey : left.key? = right.key? := leftKey.trans rightKey.symm
  revert sameKey
  cases left <;> cases right <;> decide

theorem Operator.key?_eq_none_iff (operator : Operator) :
    operator.key? = none ↔ operator = .equal := by
  cases operator <;> simp [Operator.key?]

theorem Operator.ne_equal_of_key? {operator : Operator} {key : String}
    (keyed : operator.key? = some key) : operator ≠ .equal := by
  intro isEqual
  rw [isEqual] at keyed
  cases keyed

/-- A demand expresses the effective ones among the given operations. -/
def Demand.Expresses (performed : List (Operator × Value)) : Demand → Prop
  | .anything => performed = []
  | .equals operand => ∃ earlier, performed = earlier ++ [(.equal, operand)]
  | .operators document =>
      document ≠ [] ∧ Document.UniqueKeys document ∧
        (∀ operation, Effective performed operation → operation.1 ≠ .equal) ∧
        ∀ key operand, (key, operand) ∈ document ↔
          ∃ operator : Operator, operator.key? = some key ∧ Effective performed (operator, operand)

theorem Document.mem_set_iff {document : Document} (unique : document.UniqueKeys)
    (key : String) (value : Value) (entry : String × Value) :
    entry ∈ document.set key value ↔
      entry = (key, value) ∨ (entry ∈ document ∧ entry.1 ≠ key) := by
  induction document with
  | nil => simp [Document.set]
  | cons first rest inductionHypothesis =>
      rcases first with ⟨name, held⟩
      have nameFresh : name ∉ rest.map Prod.fst := (List.nodup_cons.mp unique).1
      have restUnique : Document.UniqueKeys rest := (List.nodup_cons.mp unique).2
      by_cases sameName : name = key
      · subst sameName
        have others : entry ∈ rest → entry.1 ≠ name := fun member equality =>
          nameFresh (equality ▸ List.mem_map_of_mem member)
        simp only [Document.set, if_true, List.mem_cons]
        constructor
        · intro found
          rcases found with isWritten | member
          · exact Or.inl isWritten
          · exact Or.inr ⟨Or.inr member, others member⟩
        · intro found
          rcases found with isWritten | ⟨rfl | member, differs⟩
          · exact Or.inl isWritten
          · exact absurd rfl differs
          · exact Or.inr member
      · simp only [Document.set, sameName, if_false, List.mem_cons,
          inductionHypothesis restUnique]
        constructor
        · intro found
          rcases found with isFirst | isWritten | ⟨member, differs⟩
          · exact Or.inr ⟨Or.inl isFirst, isFirst ▸ sameName⟩
          · exact Or.inl isWritten
          · exact Or.inr ⟨Or.inr member, differs⟩
        · intro found
          rcases found with isWritten | ⟨isFirst | member, differs⟩
          · exact Or.inr (Or.inl isWritten)
          · exact Or.inl isFirst
          · exact Or.inr (Or.inr ⟨member, differs⟩)

namespace Demand

/-- A demand that starts a new document of operators expresses the one operator,
as long as no effective comparison came before. -/
theorem expresses_first_operator {performed : List (Operator × Value)} {operator : Operator}
    {key : String} (keyed : operator.key? = some key) (operand : Value)
    (noneBefore : ∀ operation, Effective performed operation → operation.1 = .equal) :
    Expresses (performed ++ [(operator, operand)]) (.operators [(key, operand)]) := by
  have different : operator ≠ .equal := Operator.ne_equal_of_key? keyed
  have onlyOne : ∀ operation,
      Effective (performed ++ [(operator, operand)]) operation ↔
        operation = (operator, operand) := by
    intro operation
    rw [effective_concat_iff]
    constructor
    · intro found
      rcases found with same | ⟨_, notEqual, _, counts⟩
      · exact same
      · exact absurd (noneBefore operation counts) notEqual
    · exact Or.inl
  refine ⟨by simp, by simp [Document.UniqueKeys, Document.keys], ?_, ?_⟩
  · intro operation counts
    rw [(onlyOne operation).mp counts]
    exact different
  · intro otherKey otherOperand
    simp only [onlyOne, List.mem_singleton, Prod.mk.injEq]
    constructor
    · intro same
      obtain ⟨rfl, rfl⟩ := same
      exact ⟨operator, keyed, rfl, rfl⟩
    · intro found
      obtain ⟨_, otherKeyed, rfl, rfl⟩ := found
      exact ⟨Option.some.inj (otherKeyed.symm.trans keyed), rfl⟩

/-- One more operation keeps a demand expressing what counts. -/
theorem expresses_add {performed : List (Operator × Value)} {demand : Demand}
    (expressed : demand.Expresses performed) (operator : Operator) (operand : Value) :
    (demand.add operator operand).Expresses (performed ++ [(operator, operand)]) := by
  cases keyed : operator.key? with
  | none =>
      obtain rfl := (Operator.key?_eq_none_iff operator).mp keyed
      exact ⟨performed, rfl⟩
  | some key =>
      cases demand with
      | anything =>
          obtain rfl : performed = [] := expressed
          simp only [add, keyed]
          exact expresses_first_operator keyed operand
            fun operation counts => absurd counts (not_effective_nil operation)
      | equals last =>
          obtain ⟨earlier, rfl⟩ := expressed
          simp only [add, keyed]
          apply expresses_first_operator keyed operand
          intro operation counts
          rcases (effective_concat_iff _ _ _).mp counts with same | ⟨impossible, _⟩
          · rw [same]
          · exact absurd rfl impossible
      | operators document =>
          obtain ⟨_, unique, noEquality, listed⟩ := expressed
          have different : operator ≠ .equal := Operator.ne_equal_of_key? keyed
          simp only [add, keyed]
          refine ⟨?_, Document.uniqueKeys_set unique key operand, ?_, ?_⟩
          · intro empty
            have member := (Document.mem_set_iff unique key operand (key, operand)).mpr (Or.inl rfl)
            rw [empty] at member
            simp at member
          · intro operation counts
            rcases (effective_concat_iff _ _ _).mp counts with same | ⟨_, notEqual, _⟩
            · rw [same]
              exact different
            · exact notEqual
          · intro otherKey otherOperand
            rw [Document.mem_set_iff unique]
            simp only [effective_concat_iff, Prod.mk.injEq]
            constructor
            · intro found
              rcases found with ⟨rfl, rfl⟩ | ⟨member, otherName⟩
              · exact ⟨operator, keyed, Or.inl ⟨rfl, rfl⟩⟩
              · obtain ⟨other, otherKeyed, counts⟩ := (listed _ _).mp member
                refine ⟨other, otherKeyed,
                  Or.inr ⟨different, noEquality _ counts, ?_, counts⟩⟩
                intro same
                rw [same] at otherKeyed
                exact otherName (Option.some.inj (otherKeyed.symm.trans keyed))
            · intro found
              obtain ⟨other, otherKeyed, ⟨rfl, rfl⟩ | ⟨_, _, notSame, counts⟩⟩ := found
              · exact Or.inl ⟨Option.some.inj (otherKeyed.symm.trans keyed), rfl⟩
              · refine Or.inr ⟨(listed _ _).mpr ⟨other, otherKeyed, counts⟩, ?_⟩
                intro sameKey
                rw [show otherKey = key from sameKey] at otherKeyed
                exact notSame (Operator.key?_injective otherKeyed keyed)

/-- The tokens of a field make a demand that expresses their plain operations. -/
theorem expresses_ofTokens (tokens : Document) :
    (ofTokens tokens).Expresses (operations false tokens) := by
  have carried : ∀ (performed : List (Operator × Value)) (demand : Demand),
      demand.Expresses performed →
      (tokens.foldl addToken demand).Expresses (performed ++ operations false tokens) := by
    induction tokens with
    | nil => simp [operations]
    | cons entry rest inductionHypothesis =>
        intro performed demand expressed
        rw [List.foldl_cons]
        rcases read : Comparator.ofToken? entry.1 with _ | ⟨operator, marked⟩
        · simpa [addToken, operations, read] using inductionHypothesis performed demand expressed
        · cases marked with
          | true =>
              simpa [addToken, operations, read] using
                inductionHypothesis performed demand expressed
          | false =>
              have extended := inductionHypothesis _ _
                (expresses_add expressed operator entry.2)
              simpa [addToken, operations, read] using extended
  exact carried [] .anything rfl

/-- The condition of a demand holds exactly when every effective operation does. -/
theorem condition?_satisfied_iff {performed : List (Operator × Value)} {demand : Demand}
    (expressed : demand.Expresses performed)
    (literal : ∀ operand, (Operator.equal, operand) ∈ performed → ¬ operand.ReadsAsOperators)
    (field : Option Value) :
    (∀ condition, demand.condition? = some condition → satisfiesCondition field condition = true) ↔
      ∀ operation, Effective performed operation → operation.1.Holds field operation.2 := by
  cases demand with
  | anything =>
      obtain rfl : performed = [] := expressed
      simp [condition?, not_effective_nil]
  | equals operand =>
      obtain ⟨earlier, rfl⟩ := expressed
      have lastOnly : ∀ operation,
          Effective (earlier ++ [(.equal, operand)]) operation ↔ operation = (.equal, operand) := by
        simp [effective_concat_iff]
      simp only [condition?, Option.some.injEq, forall_eq', lastOnly, forall_eq, Operator.Holds]
      exact satisfiesCondition_of_literal (literal operand (by simp)) field
  | operators document =>
      obtain ⟨nonempty, _, noEquality, listed⟩ := expressed
      simp only [condition?, Option.some.injEq, forall_eq']
      rw [satisfiesCondition_operators nonempty fun entry member =>
        ((listed entry.1 entry.2).mp member).imp fun _ found => found.1]
      constructor
      · intro satisfied operation counts
        rcases operation with ⟨operator, operand⟩
        obtain ⟨key, keyed⟩ : ∃ key, operator.key? = some key := by
          rw [← Option.ne_none_iff_exists', ne_eq, Operator.key?_eq_none_iff]
          exact noEquality _ counts
        exact (satisfiesOperator_iff keyed field operand).mp
          (satisfied (key, operand) ((listed key operand).mpr ⟨operator, keyed, counts⟩))
      · intro held entry member
        rcases entry with ⟨key, operand⟩
        obtain ⟨operator, keyed, counts⟩ := (listed key operand).mp member
        exact (satisfiesOperator_iff keyed field operand).mpr (held _ counts)

end Demand

/-! ## Criteria and alternatives -/

/-- A selection query asks something of a field: by an entry under `where`, or by
an entry at the top level that is neither reserved nor named under `where`. -/
inductive Selection.Asks (selection : Selection) : String → Document → Prop
  | underWhere {fields : Document} {field : String} {criterion : Value} :
      selection.entries.get? "where" = some (.object fields) → (field, criterion) ∈ fields →
        selection.Asks field criterion.operands
  | topLevel {field : String} {criterion : Value} :
      (field, criterion) ∈ selection.entries → field ∉ Selection.reserved →
        (∀ fields, selection.entries.get? "where" = some (.object fields) →
          field ∉ fields.map Prod.fst) →
        selection.Asks field criterion.operands

theorem Document.hasKey_iff (document : Document) (key : String) :
    document.hasKey key = true ↔ key ∈ document.map Prod.fst := by
  induction document with
  | nil => simp [Document.hasKey]
  | cons entry rest inductionHypothesis =>
      rcases entry with ⟨first, held⟩
      simp only [Document.hasKey, Document.get?_cons] at inductionHypothesis ⊢
      by_cases sameKey : key = first
      · simp [sameKey]
      · simp [sameKey, inductionHypothesis]

theorem Selection.whereFields_of_get? {selection : Selection} {fields : Document}
    (present : selection.entries.get? "where" = some (.object fields)) :
    selection.whereFields = fields := by
  simp [Selection.whereFields, Document.child, present, Value.document?]

theorem Selection.whereFields_eq_nil {selection : Selection}
    (absent : ∀ fields, selection.entries.get? "where" ≠ some (.object fields)) :
    selection.whereFields = [] := by
  unfold Selection.whereFields Document.child
  cases found : selection.entries.get? "where" with
  | none => rfl
  | some criterion =>
      cases criterion with
      | object fields => exact absurd found (absent fields)
      | _ => rfl

/-- A query without criteria at the top level asks those under `where`. -/
theorem Selection.criteria_of_where {selection : Selection} {fields : Document}
    (present : selection.entries.get? "where" = some (.object fields))
    (onlyReserved : ∀ entry ∈ selection.entries, isReserved entry.1 = true) :
    selection.criteria = fields.map fun entry => (entry.1, entry.2.operands) := by
  have nothingElse : selection.topLevelFields = [] := by
    rw [topLevelFields, List.filter_eq_nil_iff]
    intro entry member
    simp [onlyReserved entry member]
  rw [criteria, whereFields_of_get? present, nothingElse, List.append_nil]

theorem Selection.filter_congr {selection other : Selection}
    (sameCriteria : selection.criteria = other.criteria) : selection.filter = other.filter := by
  rw [filter, filter, sameCriteria]

theorem Selection.filter_of_no_terms {selection : Selection}
    (noTerms : alternativeTerms selection.criteria = []) :
    selection.filter = plainConditions selection.criteria := by
  simp [filter, noTerms]

theorem Selection.filter_of_terms {selection : Selection}
    (terms : alternativeTerms selection.criteria ≠ []) :
    selection.filter = (plainConditions selection.criteria).set alternativesKey
      (.array (alternativeTerms selection.criteria)) := by
  simp [filter, terms]

theorem Selection.asks_iff (selection : Selection) (field : String) (tokens : Document) :
    selection.Asks field tokens ↔ (field, tokens) ∈ selection.criteria := by
  simp only [Selection.criteria, List.mem_map, List.mem_append, Selection.topLevelFields,
    List.mem_filter, Bool.and_eq_true, Bool.not_eq_true', Prod.mk.injEq]
  constructor
  · intro asked
    cases asked with
    | @underWhere _ _ criterion present member =>
        refine ⟨(field, criterion), Or.inl ?_, rfl, rfl⟩
        rw [Selection.whereFields_of_get? present]
        exact member
    | @topLevel _ criterion member unreserved unnamed =>
        refine ⟨(field, criterion), Or.inr ⟨member, ?_, ?_⟩, rfl, rfl⟩
        · simpa [Selection.isReserved] using unreserved
        · rw [← Bool.not_eq_true, Document.hasKey_iff]
          by_cases present : ∃ fields, selection.entries.get? "where" = some (.object fields)
          · obtain ⟨fields, found⟩ := present
            rw [Selection.whereFields_of_get? found]
            exact unnamed fields found
          · rw [Selection.whereFields_eq_nil fun fields found => present ⟨fields, found⟩]
            simp
  · intro found
    obtain ⟨⟨_, criterion⟩, member | ⟨member, unreserved, unnamed⟩, rfl, rfl⟩ := found
    · by_cases present : ∃ fields, selection.entries.get? "where" = some (.object fields)
      · obtain ⟨fields, found⟩ := present
        rw [Selection.whereFields_of_get? found] at member
        exact .underWhere found member
      · rw [Selection.whereFields_eq_nil fun fields found => present ⟨fields, found⟩] at member
        simp at member
    · refine .topLevel member (by simpa [Selection.isReserved] using unreserved) ?_
      intro fields found
      rw [Selection.whereFields_of_get? found, ← Bool.not_eq_true, Document.hasKey_iff] at unnamed
      exact unnamed

/-- The condition that one operator makes holds exactly when the operator does. -/
theorem satisfiesCondition_condition {operator : Operator} {operand : Value}
    (literal : operator = .equal → ¬ operand.ReadsAsOperators) (field : Option Value) :
    satisfiesCondition field (operator.condition operand) = true ↔
      operator.Holds field operand := by
  cases keyed : operator.key? with
  | none =>
      obtain rfl := (Operator.key?_eq_none_iff operator).mp keyed
      exact satisfiesCondition_of_literal (literal rfl) field
  | some key =>
      have native : satisfiesCondition field (.object [(key, operand)]) = true ↔
          ∀ entry ∈ [(key, operand)], satisfiesOperator field entry.1 entry.2 = true :=
        satisfiesCondition_operators (by simp) (by simpa using ⟨operator, keyed⟩) field
      simpa [Operator.condition, keyed, satisfiesOperator_iff keyed] using native

theorem alternativeTerms_eq (criteria : List (String × Document)) :
    alternativeTerms criteria = criteria.flatMap fun criterion =>
      (operations true criterion.2).map fun operation =>
        .object [(criterion.1, operation.1.condition operation.2)] := by
  unfold alternativeTerms
  congr 1
  funext criterion
  rw [operations, List.map_filterMap]
  congr 1
  funext entry
  rcases read : Comparator.ofToken? entry.1 with _ | ⟨operator, marked⟩
  · simp [alternativeTerm?, read]
  · cases marked <;> simp [alternativeTerm?, read]

theorem mem_alternativeTerms_iff (criteria : List (String × Document)) (term : Value) :
    term ∈ alternativeTerms criteria ↔
      ∃ field tokens, (field, tokens) ∈ criteria ∧ ∃ operation ∈ operations true tokens,
        term = .object [(field, operation.1.condition operation.2)] := by
  simp only [alternativeTerms_eq, List.mem_flatMap, List.mem_map, Prod.exists, eq_comm]

theorem mem_plainConditions_iff (criteria : List (String × Document)) (field : String)
    (condition : Value) :
    (field, condition) ∈ plainConditions criteria ↔
      ∃ tokens, (field, tokens) ∈ criteria ∧
        (Demand.ofTokens tokens).condition? = some condition := by
  simp only [plainConditions, List.mem_filterMap, Option.map_eq_some_iff, Prod.mk.injEq,
    Prod.exists]
  constructor
  · intro found
    obtain ⟨_, tokens, member, _, made, rfl, rfl⟩ := found
    exact ⟨tokens, member, made⟩
  · intro found
    obtain ⟨tokens, member, made⟩ := found
    exact ⟨field, tokens, member, condition, made, rfl, rfl⟩

/-! ## The meaning of a filter -/

section Meaning

variable {selection : Selection} (record : Document)

theorem satisfies_plainConditions_iff
    (noGroupField : ∀ field tokens, selection.Asks field tokens → field ≠ "$or")
    (literalOperands : ∀ field tokens, selection.Asks field tokens →
      ∀ operand, (Operator.equal, operand) ∈ operations false tokens →
        ¬ operand.ReadsAsOperators) :
    satisfies record (plainConditions selection.criteria) = true ↔
      ∀ field tokens, selection.Asks field tokens →
        ∀ operation, Effective (operations false tokens) operation →
          operation.1.Holds (record.read? field) operation.2 := by
  have perField : ∀ field tokens, selection.Asks field tokens →
      ((∀ condition, (Demand.ofTokens tokens).condition? = some condition →
          satisfiesCondition (record.read? field) condition = true) ↔
        ∀ operation, Effective (operations false tokens) operation →
          operation.1.Holds (record.read? field) operation.2) := by
    intro field tokens asked
    exact Demand.condition?_satisfied_iff (Demand.expresses_ofTokens tokens)
      (literalOperands field tokens asked) (record.read? field)
  rw [satisfies_iff]
  constructor
  · intro satisfied field tokens asked
    apply (perField field tokens asked).mp
    intro condition made
    have member : (field, condition) ∈ plainConditions selection.criteria :=
      (mem_plainConditions_iff _ field condition).mpr
        ⟨tokens, (selection.asks_iff field tokens).mp asked, made⟩
    simpa [alternativesKey, noGroupField field tokens asked] using satisfied _ member
  · intro held entry member
    rcases entry with ⟨field, condition⟩
    obtain ⟨tokens, inCriteria, made⟩ := (mem_plainConditions_iff _ field condition).mp member
    have asked : selection.Asks field tokens := (selection.asks_iff field tokens).mpr inCriteria
    simp only [alternativesKey, noGroupField field tokens asked, if_false]
    exact (perField field tokens asked).mpr (held field tokens asked) condition made

theorem satisfiesSome_alternativeTerms_iff
    (noGroupField : ∀ field tokens, selection.Asks field tokens → field ≠ "$or")
    (literalOperands : ∀ field tokens, selection.Asks field tokens →
      ∀ operand, (Operator.equal, operand) ∈ operations true tokens →
        ¬ operand.ReadsAsOperators) :
    satisfiesSome record (alternativeTerms selection.criteria) = true ↔
      ∃ field tokens, selection.Asks field tokens ∧
        ∃ operation ∈ operations true tokens,
          operation.1.Holds (record.read? field) operation.2 := by
  have perTerm : ∀ field tokens operation, selection.Asks field tokens →
      operation ∈ operations true tokens →
      (satisfiesTerm record (.object [(field, operation.1.condition operation.2)]) = true ↔
        operation.1.Holds (record.read? field) operation.2) := by
    intro field tokens operation asked performed
    rw [satisfiesTerm, satisfies_iff, List.forall_mem_singleton]
    simp only [alternativesKey, noGroupField field tokens asked, if_false]
    apply satisfiesCondition_condition
    intro equality
    apply literalOperands field tokens asked
    rwa [← equality]
  rw [satisfiesSome_iff]
  constructor
  · intro satisfied
    obtain ⟨term, member, holds⟩ := satisfied
    obtain ⟨field, tokens, inCriteria, operation, performed, rfl⟩ :=
      (mem_alternativeTerms_iff _ term).mp member
    have asked := (selection.asks_iff field tokens).mpr inCriteria
    exact ⟨field, tokens, asked, operation, performed,
      (perTerm field tokens operation asked performed).mp holds⟩
  · intro satisfied
    obtain ⟨field, tokens, asked, operation, performed, holds⟩ := satisfied
    refine ⟨_, (mem_alternativeTerms_iff _ _).mpr
      ⟨field, tokens, (selection.asks_iff field tokens).mp asked, operation, performed, rfl⟩, ?_⟩
    exact (perTerm field tokens operation asked performed).mpr holds

theorem alternativeTerms_eq_nil_iff :
    alternativeTerms selection.criteria = [] ↔
      ∀ field tokens, selection.Asks field tokens → operations true tokens = [] := by
  constructor
  · intro empty field tokens asked
    apply List.eq_nil_iff_forall_not_mem.mpr
    intro operation performed
    have member := (mem_alternativeTerms_iff selection.criteria _).mpr
      ⟨field, tokens, (selection.asks_iff field tokens).mp asked, operation, performed, rfl⟩
    rw [empty] at member
    exact List.not_mem_nil member
  · intro noneAsked
    apply List.eq_nil_iff_forall_not_mem.mpr
    intro term member
    obtain ⟨field, tokens, inCriteria, operation, performed, _⟩ :=
      (mem_alternativeTerms_iff _ term).mp member
    rw [noneAsked field tokens ((selection.asks_iff field tokens).mpr inCriteria)] at performed
    exact List.not_mem_nil performed

/-- A new key is written after all others. -/
theorem Document.set_of_not_mem {document : Document} {key : String}
    (absent : key ∉ document.map Prod.fst) (value : Value) :
    document.set key value = document ++ [(key, value)] := by
  induction document with
  | nil => rfl
  | cons entry rest inductionHypothesis =>
      rcases entry with ⟨first, held⟩
      simp only [List.map_cons, List.mem_cons, not_or] at absent
      simp only [Document.set, if_neg (Ne.symm absent.1), inductionHypothesis absent.2,
        List.cons_append]

/-- A record is wanted by a selection query: it satisfies the effective plain
operations of every field and, unless there are no alternatives, at least one of
them. -/
def Selection.Wants (selection : Selection) (record : Document) : Prop :=
  (∀ field tokens, selection.Asks field tokens →
    ∀ operation, Effective (operations false tokens) operation →
      operation.1.Holds (record.read? field) operation.2) ∧
  ((∀ field tokens, selection.Asks field tokens → operations true tokens = []) ∨
    ∃ field tokens, selection.Asks field tokens ∧
      ∃ operation ∈ operations true tokens,
        operation.1.Holds (record.read? field) operation.2)

/-- Compiling keeps the meaning of a selection query. -/
theorem satisfies_filter_iff (selection : Selection) (record : Document)
    (noGroupField : ∀ field tokens, selection.Asks field tokens → field ≠ "$or")
    (literalOperands : ∀ field tokens, selection.Asks field tokens →
      ∀ alternative operand, (Operator.equal, operand) ∈ operations alternative tokens →
        ¬ operand.ReadsAsOperators) :
    satisfies record selection.filter = true ↔ selection.Wants record := by
  have plain := satisfies_plainConditions_iff record noGroupField
    fun field tokens asked operand => literalOperands field tokens asked false operand
  have alternatives := satisfiesSome_alternativeTerms_iff record noGroupField
    fun field tokens asked operand => literalOperands field tokens asked true operand
  rw [Selection.Wants, ← plain, ← alternatives, ← alternativeTerms_eq_nil_iff]
  by_cases noTerms : alternativeTerms selection.criteria = []
  · simp [Selection.filter_of_no_terms noTerms, noTerms]
  · have groupAbsent : alternativesKey ∉ (plainConditions selection.criteria).map Prod.fst := by
      intro member
      obtain ⟨⟨field, condition⟩, inConditions, isGroup⟩ := List.mem_map.mp member
      obtain ⟨tokens, inCriteria, _⟩ := (mem_plainConditions_iff _ field condition).mp inConditions
      exact noGroupField field tokens ((selection.asks_iff field tokens).mpr inCriteria) isGroup
    have group : satisfies record
        [(alternativesKey, .array (alternativeTerms selection.criteria))] =
          satisfiesSome record (alternativeTerms selection.criteria) := by
      simp [satisfies, satisfiesGroup]
    rw [Selection.filter_of_terms noTerms, Document.set_of_not_mem groupAbsent, or_iff_right noTerms,
      ← group, satisfies_iff, satisfies_iff, satisfies_iff]
    exact List.forall_mem_append

end Meaning

/-- A query with replaced, merged and alternative criteria. -/
def mixedSelection : Selection :=
  ⟨[("name", .string "Ann"), ("limit", .string "5"),
    ("where", .object
      [("age", .object
          [(">", .string "a"), ("===", .string "b"), ("!=", .string "c"), ("!==", .string "d"),
            ("|<", .string "e")]),
        ("city", .object [("|==", .array [.string "Oslo"]), ("like", .null)])])]⟩

theorem satisfies_filter_iff_mixedSelection :
    (∀ field tokens, mixedSelection.Asks field tokens → field ≠ "$or") ∧
      (∀ field tokens, mixedSelection.Asks field tokens →
        ∀ alternative operand, (Operator.equal, operand) ∈ operations alternative tokens →
          ¬ operand.ReadsAsOperators) ∧
      (satisfies [("name", .string "Ann"), ("age", .string "d")] mixedSelection.filter = true ↔
        mixedSelection.Wants [("name", .string "Ann"), ("age", .string "d")]) := by
  have noGroupField : ∀ field tokens, mixedSelection.Asks field tokens → field ≠ "$or" := by
    intro field tokens asked
    have all : ∀ criterion ∈ mixedSelection.criteria, criterion.1 ≠ "$or" := by decide
    exact all _ ((mixedSelection.asks_iff field tokens).mp asked)
  have literalOperands : ∀ field tokens, mixedSelection.Asks field tokens →
      ∀ alternative operand, (Operator.equal, operand) ∈ operations alternative tokens →
        ¬ operand.ReadsAsOperators := by
    intro field tokens asked alternative operand performed reads
    obtain ⟨entries, rfl, _⟩ := reads
    have all : ∀ criterion ∈ mixedSelection.criteria, ∀ alternative,
        ∀ operation ∈ operations alternative criterion.2, operation.2.kind ≠ .object := by decide
    exact all _ ((mixedSelection.asks_iff field tokens).mp asked) alternative _ performed rfl
  exact ⟨noGroupField, literalOperands,
    satisfies_filter_iff mixedSelection _ noGroupField literalOperands⟩

end RecordGraph
