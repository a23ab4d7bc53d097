import RecordGraph.Proofs.OwnerIndependence

/-!
# One owner alone and in a batch

A single owner is served by a query for its own key, and a batch of one by a query
for the truthy keys among its one, of whose records those are kept that equal a key.
The two can be told apart by keys that are falsy or read as native operators, by fields
that contain a key, and by parents that are loaded among others with the same key.
-/

namespace RecordGraph

/-! ## What an owner is given of the related records -/

namespace Join

def IsParent (join : Join) : Prop := ∃ keyField, join = .parent keyField

/-- The related records that are attached: all of them, or the first. -/
def picks (join : Join) (records : List Document) : List Document :=
  match join with
  | .parent _ => records.head?.toList
  | .firstChild _ => records.head?.toList
  | _ => records

end Join

/-! ## The related records of one owner -/

namespace Step

/-- The stored records of the target. -/
def targets (step : Step) (store : Store) : List Document :=
  store.records (step.target.collectionName none)

/-- The stored records of the target that satisfy a condition on the related field. -/
def satisfying (step : Step) (store : Store) (condition : Value) : List Document :=
  (step.targets store).filter (satisfies · [(step.relatedField, condition)])

/-- The stored records whose related field is or contains a truthy key of an owner.  There
are none if the field is taken for the group of alternatives. -/
def holders (step : Step) (store : Store) (owner : Document) : List Document :=
  (step.targets store).filter fun record =>
    decide (step.relatedField ≠ alternativesKey) &&
      (step.join.keysIn (owner.read? step.ownerField)).any fun key =>
        key.truthy && equalsOrContains (record.read? step.relatedField) key

/-- The records that are found for one owner.  Alone it is looked for by its key, which is
null if it is missing, and its parent by a truthy key. -/
def found (step : Step) (store : Store) (batch : Batch) (owner : Document) : List Document :=
  let held := owner.read? step.ownerField
  match step.join, batch with
  | .parent _, .single =>
      ((held.filter Value.truthy).bind fun key => (step.satisfying store key).head?).toList
  | .firstChild _, .single => step.satisfying store (held.getD .null)
  | .children _, .single => step.satisfying store (held.getD .null)
  | .listing _, _ => step.satisfying store (held.getD .null)
  | _, _ => step.holders store owner

/-- A parent that is looked for alone is a single owner of the level below. -/
def nested (step : Step) (batch : Batch) : Batch :=
  match step.join, batch with
  | .parent _, .single => .single
  | _, _ => .many

/-- The records that one owner is given, with the levels below attached to them, unless
these fail to load. -/
def kept? (step : Step) (below : Plan) (store : Store) (batch : Batch) (owner : Document) :
    Option (List Document) :=
  (below.resolved store (step.nested batch) (step.found store batch owner)).outcome.toOption.map
    fun related => step.join.picks
      ((step.task batch [owner]).share related (owner.read? step.ownerField))

/-- A record's field is one of the keys as a whole. -/
def Equals (step : Step) (record : Document) (keys : List Value) : Prop :=
  ∃ held, record.read? step.relatedField = some held ∧ ∃ key ∈ keys, key.equal held = true

/-- How an owner that is served alone can be told from one in a batch by what it is given. -/
inductive Distinguishes (step : Step) (below : Plan) (store : Store) (owner : Document) : Prop
  /-- Records are found for the owner alone and none in a batch, where falsy keys, operators
  and the group of alternatives are not looked for. -/
  | unasked : step.found store .many owner = [] → step.found store .single owner ≠ [] →
      Distinguishes step below store owner
  /-- The same records are found, but a batch drops one that would be attached: its field
  contains a key, or is attached over, and does not equal a key as a whole. -/
  | dropped {related : List Document} {record : Document} : ¬ step.join.IsListing →
      ¬ step.join.IsParent → step.found store .single owner = step.found store .many owner →
      (below.resolved store .many (step.found store .many owner)).outcome = .ok related →
      record ∈ step.join.picks related →
      ¬ step.Equals record (step.join.keysIn (owner.read? step.ownerField)) →
      Distinguishes step below store owner
  /-- What satisfies the key as operators, loaded, is not what is kept of the records that
  hold it as a value. -/
  | operators {key : Value} : owner.read? step.ownerField = some key → key.ReadsAsOperators →
      step.found store .many owner ≠ [] →
      step.kept? below store .single owner ≠ step.kept? below store .many owner →
      Distinguishes step below store owner
  /-- The first parent with the key, loaded alone, is not the first one that equals the key
  once all parents with the key are loaded together. -/
  | parent : step.join.IsParent → step.found store .many owner ≠ [] →
      step.found store .single owner = (step.found store .many owner).head?.toList →
      step.kept? below store .single owner ≠ step.kept? below store .many owner →
      Distinguishes step below store owner

end Step

namespace Task

theorem matching_keys {step : Step} {batch : Batch} {owner : Document} {keys : List Value}
    (asked : ∀ key, key ∈ keys ↔ (step.task batch [owner]).AsksFor key) (store : Store) :
    (step.task batch [owner]).matching store (Operator.member.condition (.array keys)) =
      step.holders store owner := by
  have isKey : ∀ key, key ∈ keys ↔
      key.truthy = true ∧ key ∈ step.join.keysIn (owner.read? step.ownerField) := by
    intro key
    rw [asked]
    show key.truthy = true ∧ (∃ held ∈ [owner.read? step.ownerField],
      key ∈ step.join.keysIn held) ↔ _
    simp
  apply List.filter_congr
  intro record _
  rw [Bool.eq_iff_iff, satisfies_member_iff, Bool.and_eq_true, decide_eq_true_iff,
    List.any_eq_true]
  apply and_congr_right
  intro _
  constructor
  · intro holds
    obtain ⟨key, member, holdsKey⟩ := holds
    obtain ⟨truthy, inOwner⟩ := (isKey key).mp member
    exact ⟨key, inOwner, Bool.and_eq_true_iff.mpr ⟨truthy, (equalsOrContains_iff _ _).mpr holdsKey⟩⟩
  · intro holds
    obtain ⟨key, inOwner, truthyHeld⟩ := holds
    obtain ⟨truthy, holdsKey⟩ := Bool.and_eq_true_iff.mp truthyHeld
    exact ⟨key, (isKey key).mpr ⟨truthy, inOwner⟩, (equalsOrContains_iff _ _).mp holdsKey⟩

end Task

namespace Step

variable {step : Step} {below : Plan} {store : Store} {batch : Batch} {owner : Document}

theorem outcome_related_of_keys (reliable : store.unavailable = [])
    (batched : batch = .many ∧ ¬ step.join.IsListing ∨ ∃ localKeys, step.join = .listed localKeys)
    (below : Plan) (owner : Document) :
    ((step.task batch [owner]).related store (below.resolved store)).outcome =
      (below.resolved store .many (step.holders store owner)).outcome := by
  have accepted : (step.task batch [owner]).collection ∉ store.unavailable := by
    simp [reliable]
  obtain ⟨keys, finds, asked⟩ := Task.finds_keys (step.task batch [owner]) batched
  rw [finds.outcome_related accepted, Task.matching_keys asked]

theorem outcome_related_of_identity (reliable : store.unavailable = [])
    (alone : (step.task batch [owner]).Finds .many ((owner.read? step.ownerField).getD .null))
    (below : Plan) :
    ((step.task batch [owner]).related store (below.resolved store)).outcome =
      (below.resolved store .many
        (step.satisfying store ((owner.read? step.ownerField).getD .null))).outcome := by
  have accepted : (step.task batch [owner]).collection ∉ store.unavailable := by
    simp [reliable]
  rw [alone.outcome_related accepted]
  rfl

theorem outcome_related_of_parent (reliable : store.unavailable = []) {keyField : String}
    (join : step.join = .parent keyField) (below : Plan) (owner : Document) :
    ((step.task .single [owner]).related store (below.resolved store)).outcome =
      (below.resolved store .single (step.found store .single owner)).outcome := by
  have accepted : (step.task .single [owner]).collection ∉ store.unavailable := by
    simp [reliable]
  have firstKey : (step.task .single [owner]).keys.head?.join = owner.read? step.ownerField := rfl
  cases usable : (owner.read? step.ownerField).filter Value.truthy with
  | none =>
      have nothing : (step.task .single [owner]).start = .nothing :=
        Task.start_parent_of_unusable rfl join (firstKey ▸ usable)
      simp only [Task.related, nothing, found, join, usable, Option.bind_none,
        Option.toList_none]
      exact (Plan.outcome_resolved_nil below store _).symm
  | some key =>
      rw [Task.outcome_related_parent rfl join (firstKey ▸ usable) accepted]
      simp only [found, join, usable, Option.bind_some]
      rfl

/-- The task for one owner loads the levels below what is found for it. -/
theorem outcome_related (reliable : store.unavailable = []) (step : Step) (below : Plan)
    (batch : Batch) (owner : Document) :
    ((step.task batch [owner]).related store (below.resolved store)).outcome =
      (below.resolved store (step.nested batch) (step.found store batch owner)).outcome := by
  cases join : step.join with
  | parent keyField =>
      cases batch with
      | single =>
          simpa only [nested, join] using outcome_related_of_parent reliable join below owner
      | many =>
          simpa only [nested, found, join] using outcome_related_of_keys reliable
            (Or.inl ⟨rfl, by simp [Join.IsListing, join]⟩) below owner
  | firstChild foreignKey =>
      cases batch with
      | single =>
          simpa only [nested, found, join] using outcome_related_of_identity reliable
            (Task.finds_child rfl ⟨foreignKey, Or.inl join⟩) below
      | many =>
          simpa only [nested, found, join] using outcome_related_of_keys reliable
            (Or.inl ⟨rfl, by simp [Join.IsListing, join]⟩) below owner
  | children foreignKey =>
      cases batch with
      | single =>
          simpa only [nested, found, join] using outcome_related_of_identity reliable
            (Task.finds_child rfl ⟨foreignKey, Or.inr join⟩) below
      | many =>
          simpa only [nested, found, join] using outcome_related_of_keys reliable
            (Or.inl ⟨rfl, by simp [Join.IsListing, join]⟩) below owner
  | listed localKeys =>
      simpa only [nested, found, join] using outcome_related_of_keys reliable
        (Or.inr ⟨localKeys, join⟩) below owner
  | listing foreignKeys =>
      simpa only [nested, found, join] using outcome_related_of_identity reliable
        (Task.finds_listing ⟨foreignKeys, join⟩ le_rfl) below

/-! ### Telling the two apart -/

end Step

/-! ## Levels of one owner -/

namespace Plan

/-- Some relation of the level tells an owner that is served alone from one in a batch. -/
def Distinguishes (store : Store) (owner : Document) : Plan → Prop
  | .done => False
  | .unknown _ => False
  | .load step below rest =>
      step.Distinguishes (below ()) store owner ∨ rest.Distinguishes store owner

/-- What a level attaches to an owner can be read from it afterwards: no two relations are
attached at the same first segment, and no parent where the owner holds something already. -/
def FieldsApart : Plan → Document → Prop
  | .done, _ => True
  | .unknown _, _ => True
  | .load step _ rest, owner =>
      rest.Spares step.relation.localField ∧
        (step.join.IsParent → owner.read? step.relation.localField = none) ∧
        rest.FieldsApart owner

theorem FieldsApart.attachOne {plan : Plan} {field : String} {owner : Document}
    (apart : plan.FieldsApart owner) (spares : plan.Spares field) (attachment : Option Value) :
    plan.FieldsApart (RecordGraph.attachOne field owner attachment) := by
  induction plan with
  | done => trivial
  | unknown target => trivial
  | load step below rest _ restHypothesis =>
      obtain ⟨restParts, parentHolds, restApart⟩ := apart
      obtain ⟨part, restSpares⟩ := spares
      refine ⟨restParts, ?_, restHypothesis restApart restSpares⟩
      intro isParent
      rw [read?_attachOne part.symm]
      exact parentHolds isParent

end Plan

/-! ## Finding one record -/

/-- The record that a call for an identity reads, before relations are loaded. -/
def Adapter.identified (adapter : Adapter) (store : Store) (mapper : Mapper) (identity : Value)
    (options : FindOptions) : Option Document :=
  ((selectRecords [(mapper.identity adapter.config.defaultIdAttribute, identity)]
    (store.records (mapper.collectionName options.collection))).head?).map
      (project options.projection)

theorem Adapter.answer_identityFilter (adapter : Adapter) (store : Store) (mapper : Mapper)
    (identity : Value) (options : FindOptions) :
    (Call.fetchOne (mapper.collectionName options.collection)
      (adapter.identityFilter mapper identity) options.projection).answer
        (store.records (mapper.collectionName options.collection)) =
      adapter.identified store mapper identity options := by
  have equality : Comparator.ofToken? "==" = some ⟨.equal, false⟩ := by decide
  have sameFilter : adapter.identityFilter mapper identity =
      [(mapper.identity adapter.config.defaultIdAttribute, identity)] :=
    Task.filter_criterion equality _ identity
  rw [sameFilter]
  rfl

/-- The step that loads the posts of users. -/
def blogPosts : Step := ⟨.hasMany "p" "posts" "by", .children "by", blogPost, "id", "id"⟩

end RecordGraph
