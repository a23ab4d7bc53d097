import RecordGraph.Proofs.CompactText
import RecordGraph.Proofs.FilterMeaning
import RecordGraph.Proofs.Transcript

/-!
# What relation tasks ask for

A task makes a query with one criterion on one field of the related records.  For
several owners, and for keys that an owner lists, the records that the query finds
are those whose field is or contains one of the truthy keys; every owner is then
given the found records that equal a key of its own.
-/

namespace RecordGraph

/-! ## Queries with one criterion -/

theorem Selection.criteria_withWhere (field token : String) (operand : Value) :
    (empty.withWhere field token operand).criteria = [(field, [(token, operand)])] := by
  rw [criteria_of_where rfl (by simp [withWhere, empty, Document.set, isReserved, reserved])]
  rfl

theorem Task.filter_criterion {operator : Operator} {token : String}
    (plain : Comparator.ofToken? token = some ⟨operator, false⟩) (field : String)
    (operand : Value) :
    (criterion field token operand).filter = [(field, operator.condition operand)] := by
  have noTerms : alternativeTerms [(field, [(token, operand)])] = [] := by
    simp [alternativeTerms, alternativeTerm?, plain]
  have oneCondition : plainConditions [(field, [(token, operand)])] =
      [(field, operator.condition operand)] := by
    have demanded : Demand.ofTokens [(token, operand)] = Demand.anything.add operator operand := by
      simp [Demand.ofTokens, Demand.addToken, plain]
    cases operator <;>
      simp [plainConditions, demanded, Demand.add, Operator.key?, Demand.condition?,
        Operator.condition]
  simp [criterion, Selection.compile, Selection.filter, Selection.criteria_withWhere, noTerms,
    oneCondition]

theorem Task.options_criterion (field token : String) (operand : Value) :
    (criterion field token operand).options = .none := by
  simp [criterion, Selection.compile, Selection.options, Selection.truthyAt?, Selection.get?,
    Selection.withWhere, Selection.empty, Document.child, Document.get?, Document.set,
    List.lookup_cons, QueryOptions.none]

theorem arrange_none (records : List Document) : arrange .none records = records := by
  have unsorted : sortRecords [] records = records := by
    apply List.mergeSort_of_pairwise
    exact List.pairwise_of_forall fun _ _ => rfl
  have noKeys : QueryOptions.none.sortKeys = [] := rfl
  rw [arrange, noKeys, unsorted]
  rfl

/-- A query with one criterion finds the stored records that satisfy it. -/
theorem Call.answer_fetch_criterion {operator : Operator} {token : String}
    (plain : Comparator.ofToken? token = some ⟨operator, false⟩) (collection field : String)
    (operand : Value) (records : List Document) :
    (Call.fetch collection (Task.criterion field token operand) none).answer records =
      records.filter (satisfies · [(field, operator.condition operand)]) := by
  simp only [Call.fetch, Task.filter_criterion plain, Task.options_criterion, arrange_none,
    selectRecords]
  exact List.map_id' _

/-! ## Satisfying the queries -/

theorem satisfies_single (record : Document) (field : String) (condition : Value) :
    satisfies record [(field, condition)] =
      if field = alternativesKey then satisfiesGroup record condition
      else satisfiesCondition (record.read? field) condition := by
  simp [satisfies]

/-- A query for one key finds the records whose field is or contains it, unless the
field is taken for the group of alternatives or the key for native operators. -/
theorem satisfies_point_iff {field : String} (noGroup : field ≠ alternativesKey) {key : Value}
    (literal : ¬ key.ReadsAsOperators) (record : Document) :
    satisfies record [(field, key)] = true ↔ IsOrContains (record.read? field) key := by
  rw [satisfies_single, if_neg noGroup]
  exact satisfiesCondition_of_literal literal _

/-- A query for several keys finds the records whose field is or contains one of
them, and nothing if the field is taken for the group of alternatives. -/
theorem satisfies_member_iff (field : String) (keys : List Value) (record : Document) :
    satisfies record [(field, Operator.member.condition (.array keys))] = true ↔
      field ≠ alternativesKey ∧ ∃ key ∈ keys, IsOrContains (record.read? field) key := by
  rw [satisfies_single]
  by_cases isGroup : field = alternativesKey
  · simp [isGroup, Operator.condition, Operator.key?, satisfiesGroup]
  · rw [if_neg isGroup, satisfiesCondition_condition (by simp)]
    constructor
    · intro held
      cases held with
      | intro member found => exact ⟨isGroup, _, member, found⟩
    · intro held
      obtain ⟨_, key, member, found⟩ := held
      exact .intro member found

/-! ## Fields and keys of a step -/

/-- The field of the related records that a step compares with keys. -/
def Step.relatedField (step : Step) : String :=
  match step.join with
  | .parent _ => step.targetIdentity
  | .firstChild foreignKey => foreignKey
  | .children foreignKey => foreignKey
  | .listed _ => step.targetIdentity
  | .listing foreignKeys => foreignKeys

/-- The keys that the value of an owner's key field stands for. -/
def Join.keysIn (join : Join) (held : Option Value) : List Value :=
  match join with
  | .listed _ => Task.listedKeys held
  | _ => held.toList

/-- What an owner is given whose related records are the given ones. -/
def Join.give (join : Join) (records : List Document) : Option Value :=
  match join with
  | .parent _ => records.head?.map .object
  | .firstChild _ => some (Task.firstValue records)
  | _ => some (Task.listValue records)

/-- Whether a join looks for the records that list one owner. -/
def Join.IsListing (join : Join) : Prop := ∃ foreignKeys, join = .listing foreignKeys

namespace Task

/-- The related records of an owner whose key field has the given value. -/
def share (task : Task) (related : List Document) (held : Option Value) : List Document :=
  match task.step.join, task.batch with
  | .listing _, _ => related
  | _, .single => related
  | join, .many => withKey task.step.relatedField (join.keysIn held) related

theorem attachments_eq (task : Task) (related : List Document) :
    task.attachments related =
      task.keys.map fun held => task.step.join.give (task.share related held) := by
  rcases task with ⟨step, batch, keys⟩
  rcases step with ⟨relation, join, target, ownerIdentity, targetIdentity⟩
  cases join <;> cases batch <;> rfl

theorem share_many (task : Task) (isMany : task.batch = .many)
    (notListing : ¬ task.step.join.IsListing) (related : List Document) (held : Option Value) :
    task.share related held =
      withKey task.step.relatedField (task.step.join.keysIn held) related := by
  unfold share
  rw [isMany]
  cases join : task.step.join with
  | listing foreignKeys => exact absurd ⟨foreignKeys, join⟩ notListing
  | _ => rfl

/-! ## The calls of tasks -/

/-- The collection of the related records. -/
def collection (task : Task) : String := task.step.target.collectionName none

/-- The stored records of the target that satisfy a condition on the related field. -/
def matching (task : Task) (store : Store) (condition : Value) : List Document :=
  (store.records task.collection).filter (satisfies · [(task.step.relatedField, condition)])

/-- A task makes a call for the records that satisfy a condition, and enters the level
below with them. -/
def Finds (task : Task) (nested : Batch) (condition : Value) : Prop :=
  ∃ call, task.start = .call call nested ∧ call.request.collection = task.collection ∧
    ∀ store : Store,
      call.answer (store.records task.collection) = task.matching store condition

theorem finds_listCall {task : Task} {operator : Operator} {token : String}
    (plain : Comparator.ofToken? token = some ⟨operator, false⟩) {operand : Value}
    (started : task.start = task.listCall task.step.relatedField token operand) :
    task.Finds .many (operator.condition operand) := by
  refine ⟨_, started, rfl, ?_⟩
  intro store
  exact Call.answer_fetch_criterion plain _ _ _ _

theorem Finds.outcome_related {task : Task} {nested : Batch} {condition : Value}
    (finds : task.Finds nested condition) {store : Store}
    (accepted : task.collection ∉ store.unavailable)
    (below : Batch → List Document → Transcript (List Document)) :
    (task.related store below).outcome =
      (below nested (task.matching store condition)).outcome := by
  obtain ⟨call, started, sameCollection, answers⟩ := finds
  rw [← sameCollection] at accepted
  simp only [related, started, Transcript.outcome_andThen, Store.outcome_reply accepted,
    Except.bind, sameCollection, answers]

theorem Finds.outcome_related_eq_ok_iff {task : Task} {nested : Batch} {condition : Value}
    (finds : task.Finds nested condition) (store : Store)
    (below : Batch → List Document → Transcript (List Document)) (related : List Document) :
    (task.related store below).outcome = .ok related ↔
      task.collection ∉ store.unavailable ∧
        (below nested (task.matching store condition)).outcome = .ok related := by
  obtain ⟨call, started, sameCollection, answers⟩ := finds
  rw [Task.outcome_related_eq_ok_iff, started]
  constructor
  · intro loads
    rcases loads with ⟨impossible, _⟩ | ⟨_, _, sameStart, accepted, loaded⟩
    · cases impossible
    · cases sameStart
      rw [sameCollection] at accepted loaded
      rw [answers] at loaded
      exact ⟨accepted, loaded⟩
  · intro loads
    obtain ⟨accepted, loaded⟩ := loads
    refine Or.inr ⟨call, nested, rfl, ?_, ?_⟩
    · rwa [sameCollection]
    · rwa [sameCollection, answers]

/-! ### Queries for several keys -/

/-- Some owner has the truthy key. -/
def AsksFor (task : Task) (key : Value) : Prop :=
  key.truthy = true ∧ ∃ held ∈ task.keys, key ∈ task.step.join.keysIn held

theorem mem_usableKeys_iff (task : Task) (key : Value) :
    key ∈ task.usableKeys ↔ key.truthy = true ∧ ∃ held ∈ task.keys, key ∈ held.toList := by
  simp only [usableKeys, List.mem_filter, List.mem_filterMap, id_eq, exists_eq_right,
    Option.mem_toList]
  exact and_comm

theorem mem_listedKeys_iff (task : Task) (key : Value) :
    key ∈ (Value.unique (task.keys.flatMap listedKeys)).filter Value.truthy ↔
      key.truthy = true ∧ ∃ held ∈ task.keys, key ∈ listedKeys held := by
  rw [List.mem_filter, Value.mem_unique_iff, List.mem_flatMap, and_comm]

/-- For several owners, and for listed keys, one query asks for all truthy keys. -/
theorem finds_keys (task : Task)
    (batched : task.batch = .many ∧ ¬ task.step.join.IsListing ∨
      ∃ localKeys, task.step.join = .listed localKeys) :
    ∃ keys, task.Finds .many (Operator.member.condition (.array keys)) ∧
      ∀ key, key ∈ keys ↔ task.AsksFor key := by
  have member : Comparator.ofToken? "in" = some ⟨.member, false⟩ := by decide
  have usable : ∀ key, key ∈ Value.unique task.usableKeys ↔
      key.truthy = true ∧ ∃ held ∈ task.keys, key ∈ held.toList := by
    intro key
    rw [Value.mem_unique_iff, mem_usableKeys_iff]
  have isMany : ¬ (∃ localKeys, task.step.join = .listed localKeys) → task.batch = .many :=
    fun notListed => (batched.resolve_right notListed).1
  cases join : task.step.join with
  | listed localKeys =>
      refine ⟨(Value.unique (task.keys.flatMap listedKeys)).filter Value.truthy,
        finds_listCall member ?_, ?_⟩
      · simp only [start, join, Step.relatedField]
      · simpa only [AsksFor, join, Join.keysIn] using mem_listedKeys_iff task
  | listing foreignKeys =>
      rcases batched with ⟨_, notListing⟩ | ⟨localKeys, listed⟩
      · exact absurd ⟨foreignKeys, join⟩ notListing
      · rw [join] at listed
        cases listed
  | _ =>
      have many : task.batch = .many := isMany (by simp [join])
      refine ⟨Value.unique task.usableKeys, finds_listCall member ?_, ?_⟩
      · simp only [start, join, many, Step.relatedField]
      · simpa only [AsksFor, join, Join.keysIn] using usable

theorem mem_matching_keys_iff {task : Task} {keys : List Value}
    (asked : ∀ key, key ∈ keys ↔ task.AsksFor key) (store : Store) (record : Document) :
    record ∈ task.matching store (Operator.member.condition (.array keys)) ↔
      record ∈ store.records task.collection ∧ task.step.relatedField ≠ alternativesKey ∧
        ∃ key, task.AsksFor key ∧ IsOrContains (record.read? task.step.relatedField) key := by
  simp only [matching, List.mem_filter, satisfies_member_iff, asked]

/-! ### Queries for one key -/

/-- For one owner, the records that hold its identity are asked for by that value. -/
theorem finds_child {task : Task} (isSingle : task.batch = .single)
    (isChild : ∃ foreignKey,
      task.step.join = .firstChild foreignKey ∨ task.step.join = .children foreignKey) :
    task.Finds .many task.firstKey := by
  have equality : Comparator.ofToken? "==" = some ⟨.equal, false⟩ := by decide
  have asksFirst : task.start = task.listCall task.step.relatedField "==" task.firstKey := by
    obtain ⟨foreignKey, join | join⟩ := isChild <;>
      simp only [start, join, isSingle, Step.relatedField]
  exact finds_listCall equality asksFirst

/-- The records that list one owner are asked for by its identity. -/
theorem finds_listing {task : Task} (isListing : task.step.join.IsListing)
    (few : task.keys.length ≤ 1) : task.Finds .many task.firstKey := by
  have equality : Comparator.ofToken? "contains" = some ⟨.equal, false⟩ := by decide
  have asksFirst : task.start = task.listCall task.step.relatedField "contains" task.firstKey := by
    obtain ⟨foreignKeys, join⟩ := isListing
    simp only [start, join, Step.relatedField, if_neg (by omega : ¬ 1 < task.keys.length)]
  exact finds_listCall equality asksFirst

/-- A single owner with a truthy key gets the first record that a query for this key
finds, and the level below it is that of a single owner. -/
theorem outcome_related_parent {task : Task} (isSingle : task.batch = .single)
    {keyField : String} (join : task.step.join = .parent keyField) {key : Value}
    (usable : (task.keys.head?.join).filter Value.truthy = some key) {store : Store}
    (accepted : task.collection ∉ store.unavailable)
    (below : Batch → List Document → Transcript (List Document)) :
    (task.related store below).outcome =
      (below .single (task.matching store key).head?.toList).outcome := by
  have equality : Comparator.ofToken? "==" = some ⟨.equal, false⟩ := by decide
  have started : task.start = task.pointCall task.step.relatedField key := by
    simp only [start, join, isSingle, usable, Step.relatedField]
  have answered : ∀ records, (Call.fetchOne task.collection
      (criterion task.step.relatedField "==" key).filter none).answer records =
        (records.filter (satisfies · [(task.step.relatedField, key)])).head? := by
    intro records
    simp only [Call.fetchOne, filter_criterion equality, selectRecords]
    exact Option.map_id'
  simp only [related, started, pointCall, Transcript.outcome_andThen]
  rw [Store.outcome_reply accepted]
  exact congrArg (fun found => (below .single found.toList).outcome) (answered _)

theorem start_parent_of_unusable {task : Task} (isSingle : task.batch = .single)
    {keyField : String} (join : task.step.join = .parent keyField)
    (unusable : (task.keys.head?.join).filter Value.truthy = none) :
    task.start = .nothing := by
  simp only [start, join, isSingle, unusable]

theorem start_listing_of_many (task : Task) {foreignKeys : String}
    (join : task.step.join = .listing foreignKeys) (many : 1 < task.keys.length) :
    task.start = .failure
      (.unsupported task.step.relation.target foreignKeys task.keys.length) := by
  simp only [start, join, if_pos many]

end Task

/-! ## Attaching -/

theorem attachAll_map (field : String) (owners : List Document) (current : Document → Document)
    (attach : Document → Option Value) :
    attachAll field (owners.map current) (owners.map attach) =
      owners.map fun owner => attachOne field (current owner) (attach owner) := by
  rw [attachAll, List.zipWith_map, List.zipWith_self]

theorem Step.attachments_task (step : Step) (batch : Batch) (owners related : List Document) :
    (step.task batch owners).attachments related =
      owners.map fun owner => step.join.give
        ((step.task batch owners).share related (owner.read? step.ownerField)) := by
  rw [Task.attachments_eq]
  simp [Step.task]

theorem Step.length_attach (step : Step) (batch : Batch) {owners current : List Document}
    (sameLength : current.length = owners.length) (related : List Document) :
    ((step.task batch owners).attach related current).length = owners.length := by
  rw [Task.attach, attachAll, attachments_task]
  simp [sameLength]

namespace Plan

theorem length_attachTo {plan : Plan} {store : Store} {batch : Batch}
    {owners current : List Document} (sameLength : current.length = owners.length)
    {loaded : List Loaded} (gathers : (plan.gathered store batch owners).outcome = .ok loaded) :
    (Loaded.attachTo current loaded).length = owners.length := by
  induction plan generalizing current loaded with
  | done =>
      obtain rfl : loaded = [] := (Except.ok.inj gathers).symm
      exact sameLength
  | unknown target => simp [gathered, Transcript.fail] at gathers
  | load step below rest _ restHypothesis =>
      obtain ⟨related, later, _, gathersLater, rfl⟩ :=
        (outcome_gathered_load_eq_ok_iff store batch owners step below rest loaded).mp gathers
      exact restHypothesis (step.length_attach batch sameLength related) gathersLater

/-- Resolving gives as many records as there are owners. -/
theorem length_resolved {plan : Plan} {store : Store} {batch : Batch}
    {owners resolved : List Document}
    (loads : (plan.resolved store batch owners).outcome = .ok resolved) :
    resolved.length = owners.length := by
  by_cases empty : owners = []
  · subst empty
    obtain rfl : resolved = [] := (Except.ok.inj loads).symm
    rfl
  · obtain ⟨loaded, gathers, rfl⟩ :=
      (outcome_resolved_eq_ok_iff plan store batch empty resolved).mp loads
    exact length_attachTo rfl gathers

end Plan

end RecordGraph
