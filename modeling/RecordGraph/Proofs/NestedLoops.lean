import RecordGraph.Proofs.DeeperLoading
import RecordGraph.Proofs.Siblings

/-!
# Batched relations as nested loops

For several owners a relation asks one query for the keys of all of them, resolves what
it finds, and shares this out again.  Every owner is given what a search through all
records of the target for its own truthy keys gives, each record as the level below
resolves it, unless a relation below is attached over the field that is searched.
-/

namespace RecordGraph

/-! ## Searching through the target -/

namespace Step

/-- The records of the target that hold a key in a field. -/
def search (step : Step) (store : Store) (field : String) (key : Value) : List Document :=
  (step.targets store).filter fun record => (record.read? field).any (·.equal key)

/-- The records that hold the identity of an owner in their key field; there are none for an
owner without identity, or with a falsy one. -/
def childrenOf (step : Step) (store : Store) (foreignKey : String) (owner : Document) :
    List Document :=
  match (owner.read? step.ownerIdentity).filter Value.truthy with
  | some identity => step.search store foreignKey identity
  | none => []

/-- The first record that has the key of an owner as its identity. -/
def parentOf (step : Step) (store : Store) (keyField : String) (owner : Document) :
    Option Document :=
  ((owner.read? keyField).filter Value.truthy).bind fun key =>
    (step.search store step.targetIdentity key).head?

/-- The records whose identity is among the truthy keys that an owner lists. -/
def listedBy (step : Step) (store : Store) (localKeys : String) (owner : Document) :
    List Document :=
  (step.targets store).filter fun record => (record.read? step.targetIdentity).any fun held =>
    (Task.listedKeys (owner.read? localKeys)).any fun key => key.truthy && held.equal key

/-- The records that a search for the truthy keys of an owner finds. -/
def joined (step : Step) (store : Store) (owner : Document) : List Document :=
  (step.targets store).filter fun record => (record.read? step.relatedField).any fun held =>
    (step.join.keysIn (owner.read? step.ownerField)).any fun key =>
      key.truthy && held.equal key

variable {step : Step} {store : Store}

theorem mem_search_iff {field : String} {key : Value} {record : Document} :
    record ∈ step.search store field key ↔
      record ∈ step.targets store ∧
        ∃ held, record.read? field = some held ∧ held.equal key = true := by
  rw [search, List.mem_filter, Option.any_eq_true]

/-- A join that looks for one key finds the records with the key if it is truthy, and no
others. -/
theorem joined_of_direct (direct : ∀ held, step.join.keysIn held = held.toList)
    (store : Store) (owner : Document) :
    step.joined store owner =
      match (owner.read? step.ownerField).filter Value.truthy with
      | some key => step.search store step.relatedField key
      | none => [] := by
  unfold joined search
  rw [direct]
  cases owner.read? step.ownerField with
  | none => simp
  | some key =>
      cases truthy : key.truthy <;> simp [truthy, Option.filter]

theorem joined_eq_childrenOf {foreignKey : String}
    (isChild : step.join = .firstChild foreignKey ∨ step.join = .children foreignKey)
    (store : Store) (owner : Document) :
    step.joined store owner = step.childrenOf store foreignKey owner := by
  have direct : ∀ held, step.join.keysIn held = held.toList := by
    intro held
    rcases isChild with join | join <;> rw [join] <;> rfl
  rw [joined_of_direct direct, childrenOf]
  rcases isChild with join | join <;> simp only [ownerField, relatedField, join]

theorem head?_joined {keyField : String} (join : step.join = .parent keyField)
    (store : Store) (owner : Document) :
    (step.joined store owner).head? = step.parentOf store keyField owner := by
  have direct : ∀ held, step.join.keysIn held = held.toList := by
    intro held
    rw [join]
    rfl
  rw [joined_of_direct direct, parentOf]
  simp only [ownerField, relatedField, join]
  cases (owner.read? keyField).filter Value.truthy <;> rfl

theorem joined_eq_listedBy {localKeys : String} (join : step.join = .listed localKeys)
    (store : Store) (owner : Document) :
    step.joined store owner = step.listedBy store localKeys owner := by
  simp only [joined, listedBy, ownerField, relatedField, join, Join.keysIn]

/-- Owners with different identities have no records in common. -/
theorem disjoint_childrenOf {foreignKey : String} (storeFormed : store.WellFormed)
    {first second : Document} (firstFormed : first.WellFormed)
    (apart : ∀ identity other, first.read? step.ownerIdentity = some identity →
      second.read? step.ownerIdentity = some other → identity.equal other = false) :
    (step.childrenOf store foreignKey first).Disjoint
      (step.childrenOf store foreignKey second) := by
  intro record inFirst inSecond
  unfold childrenOf at inFirst inSecond
  split at inFirst
  · rename_i identity isIdentity
    split at inSecond
    · rename_i other isOther
      have identityRead := (Option.filter_eq_some_iff.mp isIdentity).1
      have otherRead := (Option.filter_eq_some_iff.mp isOther).1
      obtain ⟨stored, held, read, sameFirst⟩ := mem_search_iff.mp inFirst
      obtain ⟨_, _, readAgain, sameSecond⟩ := mem_search_iff.mp inSecond
      obtain rfl := Option.some.inj (read.symm.trans readAgain)
      have identityFormed : identity.WellFormed := Value.WellFormed.read? firstFormed identityRead
      have heldFormed : held.WellFormed := Value.WellFormed.read? (storeFormed _ record stored) read
      have sameIdentity := Value.equal_symm heldFormed identityFormed sameFirst
      have equal := Value.equal_trans sameIdentity sameSecond
      rw [apart identity other identityRead otherRead] at equal
      cases equal
    · cases inSecond
  · cases inFirst

end Step

/-! ## Sharing out what one query finds -/

section Sharing

variable {step : Step} {store : Store} {owners : List Document}

theorem Step.joined_subset_found (notListing : ¬ step.join.IsListing)
    (noGroup : step.relatedField ≠ alternativesKey) {owner : Document} (member : owner ∈ owners) :
    step.joined store owner ⊆ (step.task .many owners).found store := by
  intro record inJoined
  simp only [joined, List.mem_filter, Option.any_eq_true, List.any_eq_true, Bool.and_eq_true]
    at inJoined
  obtain ⟨stored, held, read, key, isKey, truthy, sameValue⟩ := inJoined
  refine (mem_found_iff notListing record).mpr ⟨stored, noGroup, key, ⟨truthy, _, ?_, isKey⟩, ?_⟩
  · exact List.mem_map_of_mem member
  · rw [read]
    exact .whole sameValue

/-- Among the records that are found for all owners, those for an owner are the ones that a
search for its truthy keys finds.  A falsy key that it has picks none of them, since a record
is found only if it holds a truthy key or is a list. -/
theorem Step.withKey_found (notListing : ¬ step.join.IsListing)
    (noGroup : step.relatedField ≠ alternativesKey) (storeFormed : store.WellFormed)
    (ownersFormed : ∀ owner ∈ owners, owner.WellFormed) {owner : Document}
    (member : owner ∈ owners) :
    Task.withKey step.relatedField (step.join.keysIn (owner.read? step.ownerField))
      ((step.task .many owners).found store) = step.joined store owner := by
  obtain ⟨keys, finds, asked⟩ := (step.task .many owners).finds_keys (Or.inl ⟨rfl, notListing⟩)
  have keysFormed : ∀ key ∈ step.join.keysIn (owner.read? step.ownerField), key.WellFormed :=
    fun key isKey => wellFormed_of_mem_keysIn
      (fun value read => Value.WellFormed.read? (ownersFormed owner member) read) isKey
  rw [finds.found_eq store]
  unfold Task.withKey Task.matching joined
  rw [List.filter_filter]
  apply List.filter_congr
  intro record stored
  cases read : record.read? step.relatedField with
  | none => simp
  | some held =>
      have heldFormed : held.WellFormed := Value.WellFormed.read? (storeFormed _ record stored) read
      rw [Bool.eq_iff_iff, Bool.and_eq_true]
      simp only [Option.any_some, List.any_eq_true, Bool.and_eq_true]
      constructor
      · rintro ⟨⟨key, isKey, sameValue⟩, satisfied⟩
        obtain ⟨_, other, isAsked, holds⟩ := (satisfies_member_iff _ _ _).mp satisfied
        have truthy := truthy_of_isOrContains (read ▸ holds) ((asked other).mp isAsked).1
        rw [← Value.truthy_eq_of_equal sameValue] at truthy
        exact ⟨key, isKey, truthy,
          Value.equal_symm (keysFormed key isKey) heldFormed sameValue⟩
      · rintro ⟨key, isKey, truthy, sameValue⟩
        refine ⟨⟨key, isKey, Value.equal_symm heldFormed (keysFormed key isKey) sameValue⟩, ?_⟩
        have isAsked : key ∈ keys := (asked key).mpr ⟨truthy, _, List.mem_map_of_mem member, isKey⟩
        exact (satisfies_member_iff _ _ _).mpr ⟨noGroup, key, isAsked, read ▸ .whole sameValue⟩

end Sharing

/-! ## Resolving record by record -/

namespace Plan

variable {plan : Plan} {store : Store} {batch : Batch} {owners : List Document}

/-- What is attached to an owner depends only on the owner, once everything is loaded. -/
theorem exists_serve_of_gathered {loaded : List Loaded}
    (gathers : (plan.gathered store batch owners).outcome = .ok loaded) :
    ∃ serve, plan.LeavesSpared serve ∧ ∀ current : Document → Document,
      Loaded.attachTo (owners.map current) loaded =
        owners.map fun owner => serve owner (current owner) := by
  induction plan generalizing loaded with
  | done =>
      obtain rfl : loaded = [] := (Except.ok.inj gathers).symm
      exact ⟨fun _ current => current, fun _ _ _ _ => rfl, fun _ => rfl⟩
  | unknown target => simp [gathered, Transcript.fail] at gathers
  | load step below rest _ restHypothesis =>
      obtain ⟨related, later, _, gathersLater, rfl⟩ :=
        (outcome_gathered_load_eq_ok_iff store batch owners step below rest loaded).mp gathers
      obtain ⟨serve, spared, serves⟩ := restHypothesis gathersLater
      refine ⟨fun owner current => serve owner (attachOne step.relation.localField current
        (step.join.give ((step.task batch owners).share related
          (owner.read? step.ownerField)))), ?_, ?_⟩
      · intro field sparesField owner current
        obtain ⟨part, restSpares⟩ := sparesField
        rw [spared field restSpares, read?_attachOne part]
      · intro current
        have attached : (step.task batch owners).attach related (owners.map current) =
            owners.map fun owner => attachOne step.relation.localField (current owner)
              (step.join.give ((step.task batch owners).share related
                (owner.read? step.ownerField))) := by
          rw [Task.attach, Step.attachments_task]
          exact attachAll_map _ owners current _
        rw [Loaded.attachTo, List.foldl_cons, attached]
        exact serves _

theorem exists_dress_of_resolved {resolved : List Document}
    (loads : (plan.resolved store batch owners).outcome = .ok resolved) :
    ∃ dress : Document → Document, resolved = owners.map dress ∧
      ∀ field, plan.Spares field → ∀ record,
        (dress record).read? field = record.read? field := by
  by_cases empty : owners = []
  · subst empty
    obtain rfl : resolved = [] := (Except.ok.inj loads).symm
    exact ⟨id, rfl, fun _ _ _ => rfl⟩
  · obtain ⟨loaded, gathers, rfl⟩ :=
      (outcome_resolved_eq_ok_iff plan store batch empty resolved).mp loads
    obtain ⟨serve, spared, serves⟩ := exists_serve_of_gathered gathers
    have attached := serves id
    rw [List.map_id] at attached
    exact ⟨fun record => serve record record, attached,
      fun field spares record => spared field spares record record⟩

end Plan

/-- What is found for a step that asks for keys is resolved as a list of its own. -/
theorem Level.Loads.outcome_resolved_found {adapter : Adapter} {mapper : Mapper}
    {load : EagerLoad} {owners related : List Document} {store : Store} {step : Step}
    (loads : Level.Loads ⟨adapter.plan mapper load, .many, owners⟩ store step related)
    {name : String}
    (selected : load.matched? step.relation.target step.relation.localField = some name)
    (notListing : ¬ step.join.IsListing) :
    ((adapter.plan step.target (load.descend adapter.config.prunePolicy name)).resolved store
      .many ((step.task .many owners).found store)).outcome = .ok related := by
  rcases loads.outcome_related with ⟨other, matched, resolves⟩
  obtain rfl : name = other := Option.some.inj (selected.symm.trans matched)
  rcases (step.task .many owners).finds_keys (Or.inl ⟨rfl, notListing⟩) with ⟨keys, finds, _⟩
  rw [finds.found_eq]
  exact ((finds.outcome_related_eq_ok_iff store _ related).mp resolves).2

/-! ## What owners get -/

/-- No selected relation of a list is attached over a field. -/
def EagerLoad.Spares (load : EagerLoad) (relations : List Relation) (field : String) : Prop :=
  ∀ relation ∈ relations, load.matched? relation.target relation.localField ≠ none →
    PathsPart relation.localField field

/-- Where a selected relation is attached and none after it, its values are read in the end, or
else what was read there before. -/
theorem Plan.map_read?_attachTo_ofRelations {adapter : Adapter} {mapper : Mapper} {step : Step}
    (makes : adapter.Makes mapper step) {load : EagerLoad} {name : String}
    (selected : load.matched? step.relation.target step.relation.localField = some name)
    {before after : List Relation} (afterSpares : load.Spares after step.relation.localField)
    (known : ∀ target, ofRelations adapter.catalog adapter.config mapper load
      (before ++ step.relation :: after) ≠ .unknown target)
    {store : Store} {batch : Batch} {owners current : List Document}
    (sameLength : current.length = owners.length) {loaded : List Loaded}
    (gathers : ((ofRelations adapter.catalog adapter.config mapper load
      (before ++ step.relation :: after)).gathered store batch owners).outcome = .ok loaded) :
    ∃ related reached, ⟨step.task batch owners, related⟩ ∈ loaded ∧
      (load.Spares before step.relation.localField →
        reached = current.map (·.read? step.relation.localField)) ∧
      (Loaded.attachTo current loaded).map (·.read? step.relation.localField) =
        List.zipWith Option.or ((step.task batch owners).attachments related) reached := by
  induction before generalizing current loaded with
  | nil =>
      rw [List.nil_append] at known gathers
      rcases ofRelations_cons_of_known known with
        ⟨_, _, ⟨unused, _⟩ | ⟨first, other, isFirst, makesFirst, _, planned⟩⟩
      · simp [selected, makes.keyed] at unused
      · rw [planned, makesFirst.eq_of_relation makes isFirst] at gathers
        rcases (outcome_gathered_load_eq_ok_iff store batch owners step _ _ loaded).mp gathers with
          ⟨related, later, _, gathersLater, rfl⟩
        refine ⟨related, _, List.mem_cons_self, fun _ => rfl, ?_⟩
        have laterKept := read?_attachTo (spares_ofRelations_of_selected afterSpares)
          (step.length_attach batch sameLength related) gathersLater
        exact laterKept.trans (step.map_read?_attach_self batch owners related current)
  | cons first before inductionHypothesis =>
      rw [List.cons_append] at known gathers
      rcases ofRelations_cons_of_known known with
        ⟨restKnown, _, ⟨_, leftOut⟩ | ⟨firstStep, other, isFirst, _, matched, planned⟩⟩
      · rw [leftOut] at gathers
        rcases inductionHypothesis restKnown sameLength gathers with
          ⟨related, reached, member, kept, reads⟩
        exact ⟨related, reached, member,
          fun spares => kept (List.forall_mem_cons.mp spares).2, reads⟩
      · rw [planned] at gathers
        rcases (outcome_gathered_load_eq_ok_iff store batch owners firstStep _ _ loaded).mp gathers
          with ⟨firstRelated, later, _, gathersLater, rfl⟩
        rcases inductionHypothesis restKnown
          (firstStep.length_attach batch sameLength firstRelated) gathersLater with
          ⟨related, reached, member, kept, reads⟩
        refine ⟨related, reached, List.mem_cons_of_mem _ member, ?_, reads⟩
        intro spares
        rcases List.forall_mem_cons.mp spares with ⟨firstParts, restSpares⟩
        have part := firstParts (matched ▸ Option.some_ne_none other)
        rw [← isFirst] at part
        rw [kept restSpares]
        exact firstStep.map_read?_attach part batch sameLength firstRelated

theorem Level.Loads.map_read?_resolved {adapter : Adapter} {mapper : Mapper} {load : EagerLoad}
    {batch : Batch} {owners resolved related : List Document} {store : Store} {step : Step}
    (loads : Level.Loads ⟨adapter.plan mapper load, batch, owners⟩ store step related)
    (nonempty : owners ≠ [])
    (resolves : ((adapter.plan mapper load).resolved store batch owners).outcome = .ok resolved)
    {before after : List Relation} (declared : mapper.relations = before ++ step.relation :: after)
    (afterSpares : load.Spares after step.relation.localField) :
    ∃ reached, (load.Spares before step.relation.localField →
        reached = owners.map (·.read? step.relation.localField)) ∧
      resolved.map (·.read? step.relation.localField) =
        List.zipWith Option.or ((step.task batch owners).attachments related) reached := by
  rcases loads.offers rfl with ⟨offered, name, selected⟩
  rcases (Plan.outcome_resolved_eq_ok_iff _ store batch nonempty resolved).mp resolves
    with ⟨loaded, gathers, rfl⟩
  have planned : adapter.plan mapper load = Plan.ofRelations adapter.catalog adapter.config
      mapper load (before ++ step.relation :: after) := by
    rw [← declared]
    rfl
  rcases Plan.map_read?_attachTo_ofRelations offered.toMakes selected afterSpares
    (planned ▸ loads.ne_unknown) rfl (planned ▸ gathers) with ⟨other, reached, member, kept, isRead⟩
  -- what is read comes from a loading of the relation, of which there is only one
  rcases loads.eq_of_relation ⟨loaded, gathers, member⟩ rfl with ⟨_, rfl⟩
  exact ⟨reached, kept, isRead⟩

/-- A step that a list selects hands every owner a value to be attached, or nothing.  The value
is read at the field of its relation in the end, unless a relation after it is attached over
this field, and an owner that gets nothing keeps what it has there. -/
structure Adapter.HandsOut (adapter : Adapter) (mapper : Mapper) (load : EagerLoad)
    (store : Store) (step : Step) (owners resolved : List Document)
    (gift : Document → Option Value) : Prop where
  sameLength : resolved.length = owners.length
  runs : owners ≠ [] → ∃ related,
    Level.Loads ⟨adapter.plan mapper load, .many, owners⟩ store step related
  attaches : ∀ related,
    Level.Loads ⟨adapter.plan mapper load, .many, owners⟩ store step related →
      (step.task .many owners).attachments related = owners.map gift
  reads : ∀ before after, mapper.relations = before ++ step.relation :: after →
    load.Spares after step.relation.localField →
      ∀ owner record, (owner, record) ∈ owners.zip resolved →
        ∀ value, gift owner = some value →
          record.read? step.relation.localField = some value
  keeps : ∀ before after, mapper.relations = before ++ step.relation :: after →
    load.Spares (before ++ after) step.relation.localField →
      ∀ owner record, (owner, record) ∈ owners.zip resolved → gift owner = none →
        record.read? step.relation.localField = owner.read? step.relation.localField

theorem read?_of_mem_zip {owners resolved : List Document} {gift : Document → Option Value}
    {reached : List (Option Value)} {field : String}
    (reads : resolved.map (·.read? field) = List.zipWith Option.or (owners.map gift) reached)
    {owner record : Document} (member : (owner, record) ∈ owners.zip resolved) :
    ∃ prior, (owner, prior) ∈ owners.zip reached ∧
      record.read? field = (gift owner).or prior := by
  rcases List.mem_iff_getElem.mp member with ⟨index, inside, same⟩
  rw [List.getElem_zip, Prod.mk.injEq] at same
  rcases same with ⟨rfl, rfl⟩
  rw [List.length_zip, Nat.lt_min] at inside
  have sameLength := congrArg List.length reads
  simp only [List.length_map, List.length_zipWith] at sameLength
  have inReached : index < reached.length := by omega
  have read := List.getElem_of_eq reads (by simpa using inside.2)
  rw [List.getElem_map, List.getElem_zipWith, List.getElem_map] at read
  exact ⟨reached[index], List.mem_iff_getElem.mpr ⟨index, by simp [inside.1, inReached], by simp⟩,
    read⟩

namespace Adapter

variable {adapter : Adapter} {mapper : Mapper} {step : Step} {load : EagerLoad} {name : String}
  {pace : Pace} {session : Session} {owners resolved : List Document}

theorem Offers.handsOut (offered : adapter.Offers mapper step)
    (selected : load.matched? step.relation.target step.relation.localField = some name)
    (resolves : ((adapter.plan mapper load).resolved session.store .many owners).outcome =
      .ok resolved)
    {gift : Document → Option Value}
    (attaches : ∀ related,
      Level.Loads ⟨adapter.plan mapper load, .many, owners⟩ session.store step related →
        (step.task .many owners).attachments related = owners.map gift) :
    adapter.HandsOut mapper load session.store step owners resolved gift := by
  have reads : ∀ before after, mapper.relations = before ++ step.relation :: after →
      load.Spares after step.relation.localField → owners ≠ [] →
        ∃ reached, (load.Spares before step.relation.localField →
            reached = owners.map (·.read? step.relation.localField)) ∧
          resolved.map (·.read? step.relation.localField) =
            List.zipWith Option.or (owners.map gift) reached := by
    intro before after declared afterSpares nonempty
    rcases offered.exists_loads selected nonempty ⟨resolved, resolves⟩ with ⟨related, loads⟩
    rcases loads.map_read?_resolved nonempty resolves declared afterSpares with
      ⟨reached, kept, isRead⟩
    rw [attaches related loads] at isRead
    exact ⟨reached, kept, isRead⟩
  constructor
  · exact Plan.length_resolved resolves
  · intro nonempty
    exact offered.exists_loads selected nonempty ⟨resolved, resolves⟩
  · exact attaches
  · intro before after declared afterSpares owner record member value isGift
    rcases reads before after declared afterSpares
      (List.ne_nil_of_mem (List.of_mem_zip member).1) with ⟨reached, _, isRead⟩
    rcases read?_of_mem_zip isRead member with ⟨prior, _, read⟩
    rw [read, isGift, Option.some_or]
  · intro before after declared spares owner record member noGift
    have beforeSpares : load.Spares before step.relation.localField :=
      fun sibling inBefore => spares sibling (List.mem_append_left after inBefore)
    have afterSpares : load.Spares after step.relation.localField :=
      fun sibling inAfter => spares sibling (List.mem_append_right before inAfter)
    rcases reads before after declared afterSpares
      (List.ne_nil_of_mem (List.of_mem_zip member).1) with ⟨reached, kept, isRead⟩
    rcases read?_of_mem_zip isRead member with ⟨prior, priorMember, read⟩
    rw [kept beforeSpares] at priorMember
    have isPrior : prior = owner.read? step.relation.localField := by
      have paired : (owners.map id).zip (owners.map (·.read? step.relation.localField)) =
          owners.map fun other => (other, other.read? step.relation.localField) := List.zip_map'
      rw [List.map_id] at paired
      rw [paired] at priorMember
      rcases List.mem_map.mp priorMember with ⟨_, _, same⟩
      cases same
      rfl
    rw [read, noGift, Option.none_or, isPrior]

/-- The records that a step finds are resolved by the level below, and every owner is handed
those of them that a search for its truthy keys finds. -/
theorem Offers.exists_dress (offered : adapter.Offers mapper step)
    (selected : load.matched? step.relation.target step.relation.localField = some name)
    (notListing : ¬ step.join.IsListing) (noGroup : step.relatedField ≠ alternativesKey)
    (intact : ¬ adapter.Overwrites load step.relation step.target step.relatedField)
    (storeFormed : session.store.WellFormed) (ownersFormed : ∀ owner ∈ owners, owner.WellFormed)
    (resolves : ((adapter.resolveMany pace mapper owners load).outcome session).1 =
      .ok resolved) :
    ∃ dress : Document → Document,
      ((adapter.resolveMany pace step.target ((step.task .many owners).found session.store)
        (load.descend adapter.config.prunePolicy name)).outcome session).1 =
          .ok (((step.task .many owners).found session.store).map dress) ∧
      (∀ owner ∈ owners,
        step.joined session.store owner ⊆ (step.task .many owners).found session.store) ∧
      adapter.HandsOut mapper load session.store step owners resolved fun owner =>
        step.join.give ((step.joined session.store owner).map dress) := by
  simp only [resolveMany, outcome_resolve_eq_ok_iff] at resolves ⊢
  have contained : ∀ owner ∈ owners,
      step.joined session.store owner ⊆ (step.task .many owners).found session.store :=
    fun _ member => Step.joined_subset_found notListing noGroup member
  by_cases empty : owners = []
  · subst empty
    have noneFound : (step.task .many []).found session.store = [] := by
      rw [List.eq_nil_iff_forall_not_mem]
      intro record member
      rcases (Step.mem_found_iff notListing record).mp member with ⟨_, _, _, ⟨_, _, owns, _⟩, _⟩
      cases owns
    rw [noneFound] at contained ⊢
    refine ⟨id, Plan.outcome_resolved_nil _ session.store .many, contained, ?_⟩
    refine offered.handsOut selected resolves ?_
    intro related _
    exact step.attachments_task .many [] related
  · rcases offered.exists_loads selected empty ⟨resolved, resolves⟩ with ⟨related, loads⟩
    have belowResolves := loads.outcome_resolved_found selected notListing
    rcases Plan.exists_dress_of_resolved belowResolves with ⟨dress, rfl, spared⟩
    have kept := spared step.relatedField (spares_of_not_overwrites intact selected)
    refine ⟨dress, belowResolves, contained, offered.handsOut selected resolves ?_⟩
    intro others loadsOthers
    have sameRelated : ((step.task .many owners).found session.store).map dress = others :=
      Except.ok.inj
        (belowResolves.symm.trans (loadsOthers.outcome_resolved_found selected notListing))
    rw [← sameRelated, step.attachments_task]
    apply List.map_congr_left
    intro owner member
    rw [Task.share_many _ rfl notListing]
    have dressed := (Task.withKey_map kept (step.join.keysIn (owner.read? step.ownerField))
      ((step.task .many owners).found session.store)).trans
        (congrArg (List.map dress)
          (Step.withKey_found notListing noGroup storeFormed ownersFormed member))
    exact congrArg step.join.give dressed

/-! ## The three joins -/

/-- Children are found by the identity of their owner: an owner with a truthy identity gets the
records of the target whose key field is equal to it, in their order, or the first of them, and
every other owner gets an empty array.  Owners with different identities share no children. -/
theorem resolveMany_joins_children (offered : adapter.Offers mapper step) {foreignKey : String}
    (isChild : step.join = .firstChild foreignKey ∨ step.join = .children foreignKey)
    (noGroup : foreignKey ≠ alternativesKey)
    (selected : load.matched? step.relation.target step.relation.localField = some name)
    (intact : ¬ adapter.Overwrites load step.relation step.target foreignKey)
    (storeFormed : session.store.WellFormed) (ownersFormed : ∀ owner ∈ owners, owner.WellFormed)
    (resolves : ((adapter.resolveMany pace mapper owners load).outcome session).1 =
      .ok resolved) :
    let found := (step.task .many owners).found session.store
    ∃ dress : Document → Document,
      ((adapter.resolveMany pace step.target found
        (load.descend adapter.config.prunePolicy name)).outcome session).1 =
          .ok (found.map dress) ∧
      (∀ owner ∈ owners, step.childrenOf session.store foreignKey owner ⊆ found) ∧
      (step.join = .children foreignKey →
        adapter.HandsOut mapper load session.store step owners resolved fun owner =>
          some (Task.listValue ((step.childrenOf session.store foreignKey owner).map dress))) ∧
      (step.join = .firstChild foreignKey →
        adapter.HandsOut mapper load session.store step owners resolved fun owner =>
          some (Task.firstValue ((step.childrenOf session.store foreignKey owner).map dress))) ∧
      ((owners.Pairwise fun first second => ∀ identity other,
          first.read? step.ownerIdentity = some identity →
          second.read? step.ownerIdentity = some other → identity.equal other = false) →
        owners.Pairwise fun first second =>
          (step.childrenOf session.store foreignKey first).Disjoint
            (step.childrenOf session.store foreignKey second)) := by
  intro found
  have sameField : step.relatedField = foreignKey := by
    rcases isChild with join | join <;> simp only [Step.relatedField, join]
  have notListing : ¬ step.join.IsListing := by
    rintro ⟨_, isListing⟩
    rcases isChild with join | join <;> simp [join] at isListing
  rw [← sameField] at noGroup intact
  rcases offered.exists_dress selected notListing noGroup intact storeFormed ownersFormed
    resolves with ⟨dress, belowResolves, contained, handsOut⟩
  simp only [Step.joined_eq_childrenOf isChild] at contained handsOut
  refine ⟨dress, belowResolves, contained, ?_, ?_, ?_⟩
  · intro join
    simpa only [join, Join.give] using handsOut
  · intro join
    simpa only [join, Join.give] using handsOut
  · intro apart
    apply apart.imp_of_mem
    intro first second inOwners _ differ
    exact Step.disjoint_childrenOf storeFormed (ownersFormed first inOwners) differ

/-- An owner with a truthy key gets the first record of the target whose identity is equal to
it, and nothing if there is none; every other owner gets nothing. -/
theorem resolveMany_joins_parents (offered : adapter.Offers mapper step) {keyField : String}
    (join : step.join = .parent keyField) (noGroup : step.targetIdentity ≠ alternativesKey)
    (selected : load.matched? step.relation.target step.relation.localField = some name)
    (intact : ¬ adapter.Overwrites load step.relation step.target step.targetIdentity)
    (storeFormed : session.store.WellFormed) (ownersFormed : ∀ owner ∈ owners, owner.WellFormed)
    (resolves : ((adapter.resolveMany pace mapper owners load).outcome session).1 =
      .ok resolved) :
    let found := (step.task .many owners).found session.store
    ∃ dress : Document → Document,
      ((adapter.resolveMany pace step.target found
        (load.descend adapter.config.prunePolicy name)).outcome session).1 =
          .ok (found.map dress) ∧
      (∀ owner ∈ owners, ∀ parent ∈ step.parentOf session.store keyField owner,
        parent ∈ found) ∧
      adapter.HandsOut mapper load session.store step owners resolved fun owner =>
        (step.parentOf session.store keyField owner).map fun parent =>
          .object (dress parent) := by
  intro found
  have sameField : step.relatedField = step.targetIdentity := by
    simp only [Step.relatedField, join]
  have notListing : ¬ step.join.IsListing := by
    rintro ⟨_, isListing⟩
    simp [join] at isListing
  rw [← sameField] at noGroup intact
  rcases offered.exists_dress selected notListing noGroup intact storeFormed ownersFormed
    resolves with ⟨dress, belowResolves, contained, handsOut⟩
  refine ⟨dress, belowResolves, ?_, ?_⟩
  · intro owner member parent isParent
    rw [← Step.head?_joined join] at isParent
    exact contained owner member (List.mem_of_head? isParent)
  · simpa only [join, Join.give, List.head?_map, Step.head?_joined join, Option.map_map,
      Function.comp_def] using handsOut

/-- Every owner gets the records of the target whose identity is equal to a truthy key that it
lists, each of them once and in their order. -/
theorem resolveMany_joins_listed (offered : adapter.Offers mapper step) {localKeys : String}
    (join : step.join = .listed localKeys) (noGroup : step.targetIdentity ≠ alternativesKey)
    (selected : load.matched? step.relation.target step.relation.localField = some name)
    (intact : ¬ adapter.Overwrites load step.relation step.target step.targetIdentity)
    (storeFormed : session.store.WellFormed) (ownersFormed : ∀ owner ∈ owners, owner.WellFormed)
    (resolves : ((adapter.resolveMany pace mapper owners load).outcome session).1 =
      .ok resolved) :
    let found := (step.task .many owners).found session.store
    ∃ dress : Document → Document,
      ((adapter.resolveMany pace step.target found
        (load.descend adapter.config.prunePolicy name)).outcome session).1 =
          .ok (found.map dress) ∧
      (∀ owner ∈ owners, step.listedBy session.store localKeys owner ⊆ found) ∧
      adapter.HandsOut mapper load session.store step owners resolved fun owner =>
        some (Task.listValue ((step.listedBy session.store localKeys owner).map dress)) := by
  intro found
  have sameField : step.relatedField = step.targetIdentity := by
    simp only [Step.relatedField, join]
  have notListing : ¬ step.join.IsListing := by
    rintro ⟨_, isListing⟩
    simp [join] at isListing
  rw [← sameField] at noGroup intact
  rcases offered.exists_dress selected notListing noGroup intact storeFormed ownersFormed
    resolves with ⟨dress, belowResolves, contained, handsOut⟩
  simp only [Step.joined_eq_listedBy join, join, Join.give] at contained handsOut
  exact ⟨dress, belowResolves, contained, handsOut⟩

end Adapter

/-! ## A blog and a shelf of books -/

theorem Adapter.not_overwrites {adapter : Adapter} {target : Mapper} {field : String}
    (parts : ∀ nested ∈ target.relations, PathsPart nested.localField field)
    (load : EagerLoad) (relation : Relation) :
    ¬ adapter.Overwrites load relation target field := by
  rintro ⟨_, _, nested, declared, _, covers⟩
  exact covers (parts nested declared)

/-- Two users, and one who has not been given an identity. -/
def blogReaders : List Document :=
  [[("id", .string "u1")], [("id", .string "u2")], [("name", .string "Ann")]]

theorem blogReaders_wellFormed : ∀ owner ∈ blogReaders, owner.WellFormed := by
  simp [blogReaders, Document.WellFormed, Value.WellFormed, Value.WellFormedEntries]

set_option maxRecDepth 100000 in
/-- The second user gets the only post, with its author. -/
theorem resolveMany_joins_children_blog :
    ∃ (resolved : List Document) (dress : Document → Document),
      ((blog.resolveMany .direct blogUser blogReaders ⟨["posts", "posts.author"]⟩).outcome
        ⟨blogStore, []⟩).1 = .ok resolved ∧
      dress [("id", .string "p1"), ("by", .string "u2")] =
        [("id", .string "p1"), ("by", .string "u2"), ("author", .object [("id", .string "u2")])] ∧
      blogReaders.map (blogPosts.childrenOf blogStore "by") =
        [[], [[("id", .string "p1"), ("by", .string "u2")]], []] ∧
      (∀ owner record, (owner, record) ∈ blogReaders.zip resolved →
        record.read? "posts" =
          some (Task.listValue ((blogPosts.childrenOf blogStore "by" owner).map dress))) ∧
      blogReaders.Pairwise fun first second =>
        (blogPosts.childrenOf blogStore "by" first).Disjoint
          (blogPosts.childrenOf blogStore "by" second) := by
  have offered : blog.Offers blogUser blogPosts := ⟨⟨by cbv, by cbv, by cbv, by cbv⟩, by decide⟩
  have resolves : ((blog.resolveMany .direct blogUser blogReaders
      ⟨["posts", "posts.author"]⟩).outcome ⟨blogStore, []⟩).1 = .ok
        [[("id", .string "u1"), ("posts", .array [])],
          [("id", .string "u2"), ("posts", .array [.object
            [("id", .string "p1"), ("by", .string "u2"),
              ("author", .object [("id", .string "u2")])]])],
          [("name", .string "Ann"), ("posts", .array [])]] := by
    cbv
  have found : (blogPosts.task .many blogReaders).found blogStore =
      [[("id", .string "p1"), ("by", .string "u2")]] := by
    decide +kernel
  have belowResolves : ((blog.resolveMany .direct blogPost
      [[("id", .string "p1"), ("by", .string "u2")]] (EagerLoad.descend
        ⟨["posts", "posts.author"]⟩ blog.config.prunePolicy "posts")).outcome
          ⟨blogStore, []⟩).1 = .ok
            [[("id", .string "p1"), ("by", .string "u2"),
              ("author", .object [("id", .string "u2")])]] := by
    cbv
  have apart : blogReaders.Pairwise fun first second => ∀ identity other,
      first.read? blogPosts.ownerIdentity = some identity →
        second.read? blogPosts.ownerIdentity = some other → identity.equal other = false := by
    have identified : ∀ text, Document.read? [("id", .string text)] blogPosts.ownerIdentity =
        some (.string text) := fun _ => rfl
    have unidentified : ∀ text,
        Document.read? [("name", .string text)] blogPosts.ownerIdentity = none := fun _ => rfl
    simp [blogReaders, identified, unidentified, Value.equal, Value.same]
  rcases Adapter.resolveMany_joins_children offered (Or.inr rfl) (by decide)
    (show EagerLoad.matched? ⟨["posts", "posts.author"]⟩ "p" "posts" = some "posts" by decide)
    (Adapter.not_overwrites (by decide) _ _) blogStore_wellFormed blogReaders_wellFormed resolves
    with ⟨dress, dressed, _, children, _, disjoint⟩
  rw [found] at dressed
  have dressedPost := Except.ok.inj (dressed.symm.trans belowResolves)
  refine ⟨_, dress, resolves, (List.cons.inj dressedPost).1, by decide +kernel, ?_,
    disjoint apart⟩
  intro owner record member
  exact (children rfl).reads [] [] rfl (by simp [EagerLoad.Spares]) owner record member _ rfl

/-- The step that loads the authors of posts. -/
def blogAuthor : Step := ⟨.belongsTo "u" "author" "by", .parent "by", blogUser, "id", "id"⟩

/-- A post by a user, one by somebody unknown and one without an author. -/
def blogDrafts : List Document :=
  [[("by", .string "u2")], [("by", .string "u3")], [("by", .string "")]]

set_option maxRecDepth 100000 in
/-- The first post gets its author, and the others are left alone. -/
theorem resolveMany_joins_parents_blog :
    ∃ (resolved : List Document) (dress : Document → Document),
      ((blog.resolveMany .direct blogPost blogDrafts ⟨["author"]⟩).outcome
        ⟨blogStore, []⟩).1 = .ok resolved ∧
      blogDrafts.map (blogAuthor.parentOf blogStore "by") =
        [some [("id", .string "u2")], none, none] ∧
      (∀ owner record, (owner, record) ∈ blogDrafts.zip resolved →
        ∀ parent, blogAuthor.parentOf blogStore "by" owner = some parent →
          record.read? "author" = some (.object (dress parent))) ∧
      ∀ owner record, (owner, record) ∈ blogDrafts.zip resolved →
        blogAuthor.parentOf blogStore "by" owner = none →
          record.read? "author" = owner.read? "author" := by
  have offered : blog.Offers blogPost blogAuthor := ⟨⟨by cbv, by cbv, by cbv, by cbv⟩, by decide⟩
  have ownersFormed : ∀ owner ∈ blogDrafts, owner.WellFormed := by
    simp [blogDrafts, Document.WellFormed, Value.WellFormed, Value.WellFormedEntries]
  have resolves : ((blog.resolveMany .direct blogPost blogDrafts ⟨["author"]⟩).outcome
      ⟨blogStore, []⟩).1 = .ok
        [[("by", .string "u2"), ("author", .object [("id", .string "u2")])],
          [("by", .string "u3")], [("by", .string "")]] := by
    cbv
  rcases Adapter.resolveMany_joins_parents offered (show blogAuthor.join = .parent "by" from rfl)
    (by decide) (show EagerLoad.matched? ⟨["author"]⟩ "u" "author" = some "author" by decide)
    (Adapter.not_overwrites (by decide) _ _) blogStore_wellFormed ownersFormed resolves
    with ⟨dress, _, _, handsOut⟩
  refine ⟨_, dress, resolves, by decide +kernel, ?_, ?_⟩
  · intro owner record member parent isParent
    exact handsOut.reads [] [] rfl (by simp [EagerLoad.Spares]) owner record member _
      (congrArg (Option.map fun found => Value.object (dress found)) isParent)
  · intro owner record member noParent
    exact handsOut.keeps [] [] rfl (by simp [EagerLoad.Spares]) owner record member
      (congrArg (Option.map fun found => Value.object (dress found)) noParent)

/-- The mapper of books, which list their topics. -/
def shelfBook : Mapper :=
  ((Mapper.named "b").withTable "b").withRelation (.hasManyListed "t" "topics" "on")

def shelf : Adapter := ⟨⟨[shelfBook, (Mapper.named "t").withTable "t"]⟩, .default⟩

/-- The step that loads the topics of books. -/
def shelfTopics : Step :=
  ⟨.hasManyListed "t" "topics" "on", .listed "on", (Mapper.named "t").withTable "t", "id", "id"⟩

/-- A book that lists a topic twice and an empty one, one that lists its topics as keys of an
object, and one that lists none. -/
def shelfBooks : List Document :=
  [[("on", .array [.string "y", .string "", .string "y"])],
    [("on", .object [("y", .bool true), ("x", .bool true)])], [("on", .string "x")]]

/-- Two topics, and one with a list for its identity. -/
def shelfStore : Store where
  collections :=
    [("t", [[("id", .string "x")], [("id", .array [.string "y"])], [("id", .string "y")]])]
  unavailable := []
  log := []

set_option maxRecDepth 100000 in
/-- Every book gets its topics once and in the order of the store. -/
theorem resolveMany_joins_listed_shelf :
    ∃ (resolved : List Document) (dress : Document → Document),
      ((shelf.resolveMany .direct shelfBook shelfBooks ⟨["topics"]⟩).outcome
        ⟨shelfStore, []⟩).1 = .ok resolved ∧
      shelfBooks.map (shelfTopics.listedBy shelfStore "on") =
        [[[("id", .string "y")]], [[("id", .string "x")], [("id", .string "y")]], []] ∧
      ∀ owner record, (owner, record) ∈ shelfBooks.zip resolved →
        record.read? "topics" =
          some (Task.listValue ((shelfTopics.listedBy shelfStore "on" owner).map dress)) := by
  have offered : shelf.Offers shelfBook shelfTopics :=
    ⟨⟨by cbv, by cbv, by cbv, by cbv⟩, by decide⟩
  have storeFormed : shelfStore.WellFormed := by
    apply Store.wellFormed_of_collections
    simp [shelfStore, Document.WellFormed, Value.WellFormed, Value.WellFormedEntries,
      Value.WellFormedItems]
  have ownersFormed : ∀ owner ∈ shelfBooks, owner.WellFormed := by
    simp [shelfBooks, Document.WellFormed, Value.WellFormed, Value.WellFormedEntries,
      Value.WellFormedItems]
  have resolves : ((shelf.resolveMany .direct shelfBook shelfBooks ⟨["topics"]⟩).outcome
      ⟨shelfStore, []⟩).1 = .ok
        [[("on", .array [.string "y", .string "", .string "y"]),
            ("topics", .array [.object [("id", .string "y")]])],
          [("on", .object [("y", .bool true), ("x", .bool true)]),
            ("topics", .array [.object [("id", .string "x")], .object [("id", .string "y")]])],
          [("on", .string "x"), ("topics", .array [])]] := by
    cbv
  rcases Adapter.resolveMany_joins_listed offered (show shelfTopics.join = .listed "on" from rfl)
    (by decide) (show EagerLoad.matched? ⟨["topics"]⟩ "t" "topics" = some "topics" by decide)
    (Adapter.not_overwrites (by decide) _ _) storeFormed ownersFormed resolves
    with ⟨dress, _, _, handsOut⟩
  refine ⟨_, dress, resolves, by decide +kernel, ?_⟩
  intro owner record member
  exact handsOut.reads [] [] rfl (by simp [EagerLoad.Spares]) owner record member _ rfl

end RecordGraph
