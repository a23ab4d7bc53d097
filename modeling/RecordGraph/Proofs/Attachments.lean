import RecordGraph.Proofs.Levels

/-!
# Where attached records point

A relation by a key on the related records attaches to an owner the records that hold
its identity or list it.  The exceptions are identities that are missing or null or are
read as operators, and key fields that are read as the group of alternatives or have been
written over before they are compared.
-/

namespace RecordGraph

/-! ## Attached records -/

/-- A value given to an owner is a record, or a list with the record in it. -/
inductive Value.HoldsRecord : Value → Document → Prop
  | alone (record : Document) : HoldsRecord (.object record) record
  | listed {items : List Value} {record : Document} :
      .object record ∈ items → HoldsRecord (.array items) record

namespace Level

/-- The level loads its relations, a step among them, which gets the related records. -/
def Loads (level : Level) (store : Store) (step : Step) (related : List Document) : Prop :=
  ∃ loaded, (level.plan.gathered store level.batch level.owners).outcome = .ok loaded ∧
    ⟨step.task level.batch level.owners, related⟩ ∈ loaded

/-- Among the related records, an owner is given the record. -/
def Gives (level : Level) (step : Step) (related : List Document) (owner record : Document) :
    Prop :=
  ∃ value, (owner, some value) ∈
      level.owners.zip ((step.task level.batch level.owners).attachments related) ∧
    value.HoldsRecord record

/-- The call of a step answers with the origin, which is the record once the levels below
are attached to it. -/
def Dresses (level : Level) (store : Store) (step : Step) (related : List Document)
    (origin record : Document) : Prop :=
  ∃ call nested, (step.task level.batch level.owners).start = .call call nested ∧
    (origin, record) ∈ (call.answer (store.records call.request.collection)).zip related

end Level

/-! ## Directed records -/

namespace Step

/-- A step looks for records by the identity of their owner. -/
def OfOwner (step : Step) : Prop :=
  (∃ foreignKey, step.join = .firstChild foreignKey ∨ step.join = .children foreignKey) ∨
    step.join.IsListing

/-- The key field of a record is the identity, or contains it. -/
def PointsAt (step : Step) (record : Document) (identity : Option Value) : Prop :=
  ∃ key held, identity = some key ∧ record.read? step.relatedField = some held ∧
    IsOrContains (some held) key

/-- Owners are served by a query for one identity, whose answer is attached as it is. -/
def AsksAlone (step : Step) (batch : Batch) : Prop :=
  batch = .single ∨ step.join.IsListing

/-- How a record that does not point at an owner comes to be attached to it. -/
inductive Misdirects (step : Step) (batch : Batch) (identity : Option Value)
    (origin record : Document) : Prop
  /-- An owner without identity is looked for as null. -/
  | unidentified : step.AsksAlone batch → identity = none →
      Misdirects step batch identity origin record
  /-- A record without key is found for an identity that is null. -/
  | keyless : step.AsksAlone batch → identity = some .null →
      origin.read? step.relatedField = none → Misdirects step batch identity origin record
  /-- An identity is read as operators, which the key of the record satisfies. -/
  | operators {key : Value} : step.AsksAlone batch → identity = some key →
      key.ReadsAsOperators → ¬ step.PointsAt origin identity →
      Misdirects step batch identity origin record
  /-- The key field is read as the group of alternatives. -/
  | alternatives : step.AsksAlone batch → step.relatedField = alternativesKey →
      ¬ step.PointsAt origin identity → Misdirects step batch identity origin record
  /-- Something else is attached over the key field before it is compared. -/
  | overwritten : ¬ step.AsksAlone batch →
      record.read? step.relatedField ≠ origin.read? step.relatedField →
      ¬ step.PointsAt origin identity → Misdirects step batch identity origin record

variable {step : Step} {batch : Batch} {identity : Option Value} {origin record : Document}

theorem OfOwner.ownerField_eq (ofOwner : step.OfOwner) :
    step.ownerField = step.ownerIdentity := by
  unfold ownerField
  rcases ofOwner with ⟨foreignKey, join | join⟩ | ⟨foreignKeys, join⟩ <;> rw [join]

theorem OfOwner.keysIn_eq (ofOwner : step.OfOwner) (held : Option Value) :
    step.join.keysIn held = held.toList := by
  rcases ofOwner with ⟨foreignKey, join | join⟩ | ⟨foreignKeys, join⟩ <;> rw [join] <;> rfl

theorem batched_of_not_asksAlone (batched : ¬ step.AsksAlone batch) :
    batch = .many ∧ ¬ step.join.IsListing := by
  have notSingle : batch ≠ .single := fun isSingle => batched (Or.inl isSingle)
  cases batch with
  | single => exact absurd rfl notSingle
  | many => exact ⟨rfl, fun isListing => batched (Or.inr isListing)⟩

theorem Misdirects.not_pointsAt (misdirects : step.Misdirects batch identity origin record) :
    ¬ step.PointsAt origin identity := by
  cases misdirects with
  | unidentified _ missing =>
      intro points
      obtain ⟨key, _, present, _⟩ := points
      rw [missing] at present
      cases present
  | keyless _ _ missing =>
      intro points
      obtain ⟨_, held, _, read, _⟩ := points
      rw [missing] at read
      cases read
  | operators _ _ _ elsewhere => exact elsewhere
  | alternatives _ _ elsewhere => exact elsewhere
  | overwritten _ _ elsewhere => exact elsewhere

/-- A record that a query for one identity finds either points at its owner or is among
the exceptions. -/
theorem misdirects_of_satisfies (alone : step.AsksAlone batch)
    (found : satisfies origin [(step.relatedField, identity.getD .null)] = true)
    (elsewhere : ¬ step.PointsAt origin identity) :
    step.Misdirects batch identity origin record := by
  by_cases isGroup : step.relatedField = alternativesKey
  · exact .alternatives alone isGroup elsewhere
  · cases present : identity with
    | none => exact .unidentified alone rfl
    | some key =>
        rw [present] at found elsewhere
        by_cases literal : key.ReadsAsOperators
        · exact .operators alone rfl literal elsewhere
        · have holds := (satisfies_point_iff isGroup literal origin).mp found
          cases read : origin.read? step.relatedField with
          | none =>
              rw [read] at holds
              cases holds
              exact .keyless alone rfl read
          | some held =>
              rw [read] at holds
              exact absurd ⟨key, held, rfl, read, holds⟩ elsewhere

/-- A record that equals the identity points at it, unless the compared field was another
one when the record was found. -/
theorem misdirects_of_equal (batched : ¬ step.AsksAlone batch) {key held : Value}
    (present : identity = some key) (keyFormed : key.WellFormed)
    (originFormed : origin.WellFormed) (read : record.read? step.relatedField = some held)
    (sameValue : key.equal held = true) (elsewhere : ¬ step.PointsAt origin identity) :
    step.Misdirects batch identity origin record := by
  apply Misdirects.overwritten batched _ elsewhere
  intro sameRead
  rw [read] at sameRead
  have heldFormed : held.WellFormed := Value.WellFormed.read? originFormed sameRead.symm
  have holds : IsOrContains (some held) key :=
    .whole (Value.equal_symm keyFormed heldFormed sameValue)
  exact elsewhere ⟨key, held, present, sameRead.symm, holds⟩

end Step

/-! ## What owners are given -/

theorem Task.mem_of_holdsRecord_listValue {records : List Document} {record : Document}
    (holds : (listValue records).HoldsRecord record) : record ∈ records := by
  cases holds with
  | listed member =>
      obtain ⟨listed, isListed, sameRecord⟩ := List.mem_map.mp member
      exact Value.object.inj sameRecord ▸ isListed

theorem Task.share_subset (task : Task) (related : List Document) (held : Option Value) :
    task.share related held ⊆ related := by
  unfold share
  split
  · exact List.Subset.refl related
  · exact List.Subset.refl related
  · exact List.filter_subset_self related

/-- A join gives records from among those that it is made from. -/
theorem Join.mem_of_holdsRecord {join : Join} {records : List Document} {value : Value}
    (gives : join.give records = some value) {record : Document}
    (holds : value.HoldsRecord record) : record ∈ records := by
  have asList : Task.listValue records = value → record ∈ records := by
    intro isList
    exact Task.mem_of_holdsRecord_listValue (isList ▸ holds)
  cases join with
  | parent keyField =>
      obtain ⟨first, isFirst, rfl⟩ := Option.map_eq_some_iff.mp gives
      cases holds
      exact List.mem_of_head? isFirst
  | firstChild foreignKey =>
      obtain rfl := Option.some.inj gives
      cases records with
      | nil => exact Task.mem_of_holdsRecord_listValue holds
      | cons first rest =>
          cases holds
          exact List.mem_cons_self
  | _ => exact asList (Option.some.inj gives)

namespace Level

variable {level : Level} {store : Store} {step : Step} {related : List Document}
  {owner origin record : Document}

theorem Gives.mem_owners (given : level.Gives step related owner record) :
    owner ∈ level.owners := by
  obtain ⟨value, paired, _⟩ := given
  exact (List.of_mem_zip paired).1

/-- What an owner is given is among its share of the related records. -/
theorem Gives.mem_share (given : level.Gives step related owner record) :
    record ∈ (step.task level.batch level.owners).share related
      (owner.read? step.ownerField) := by
  obtain ⟨value, paired, holds⟩ := given
  rw [Step.attachments_task] at paired
  have together : ∀ give : Document → Option Value, level.owners.zip (level.owners.map give) =
      level.owners.map fun served => (served, give served) := by
    intro give
    simpa using List.zip_map' (f := id) (g := give) (l := level.owners)
  rw [together] at paired
  obtain ⟨served, _, samePair⟩ := List.mem_map.mp paired
  obtain ⟨rfl, gives⟩ := Prod.mk.inj samePair
  exact Join.mem_of_holdsRecord gives holds

theorem Gives.mem_related (given : level.Gives step related owner record) :
    record ∈ related :=
  Task.share_subset _ related _ given.mem_share

end Level

/-! ## What tasks find -/

theorem Plan.contains_of_mem_gathered {plan : Plan} {store : Store} {batch : Batch}
    {owners : List Document} {loaded : List Loaded}
    (gathers : (plan.gathered store batch owners).outcome = .ok loaded) {entry : Loaded}
    (member : entry ∈ loaded) :
    ∃ step below, plan.Contains step below ∧ entry.task = step.task batch owners ∧
      (entry.task.related store fun nested found =>
        below.resolved store nested found).outcome = .ok entry.related := by
  induction plan generalizing loaded with
  | done =>
      obtain rfl := Except.ok.inj gathers
      cases member
  | unknown target => simp [gathered, Transcript.fail] at gathers
  | load step below rest _ restHypothesis =>
      obtain ⟨related, later, loads, gathersLater, rfl⟩ :=
        (outcome_gathered_load_eq_ok_iff store batch owners step below rest loaded).mp gathers
      rcases List.mem_cons.mp member with isFirst | inLater
      · subst isFirst
        exact ⟨step, below (), .here step below rest, rfl, loads⟩
      · obtain ⟨found, nested, contained, ofStep⟩ := restHypothesis gathersLater inLater
        exact ⟨found, nested, .later contained, ofStep⟩

namespace Level

variable {level : Level} {store : Store} {step : Step} {related : List Document}
  {owner origin record : Document}

/-- A step has either called for nothing, or has as many related records as its call found. -/
theorem Loads.start (loads : level.Loads store step related) :
    related = [] ∨ ∃ call nested,
      (step.task level.batch level.owners).start = .call call nested ∧
        related.length = (call.answer (store.records call.request.collection)).length := by
  obtain ⟨loaded, gathers, member⟩ := loads
  obtain ⟨_, below, _, _, resolves⟩ := Plan.contains_of_mem_gathered gathers member
  rw [Task.outcome_related_eq_ok_iff] at resolves
  rcases resolves with ⟨_, nothing⟩ | ⟨call, nested, started, _, resolved⟩
  · exact Or.inl nothing
  · exact Or.inr ⟨call, nested, started, Plan.length_resolved resolved⟩

/-- Every related record is found as some origin. -/
theorem Loads.exists_dresses (loads : level.Loads store step related)
    (member : record ∈ related) : ∃ origin, level.Dresses store step related origin record := by
  rcases loads.start with nothing | ⟨call, nested, started, sameLength⟩
  · rw [nothing] at member
    cases member
  · obtain ⟨place, inside, rfl⟩ := List.mem_iff_getElem.mp member
    have found : place < (call.answer (store.records call.request.collection)).length := by
      omega
    refine ⟨_, call, nested, started, List.mem_iff_getElem.mpr ⟨place, ?_, List.getElem_zip⟩⟩
    rw [List.length_zip]
    omega

/-- The origin of a record is among those that the query of the step finds. -/
theorem Dresses.mem_matching (dresses : level.Dresses store step related origin record)
    {nested : Batch} {condition : Value}
    (finds : (step.task level.batch level.owners).Finds nested condition) :
    origin ∈ (step.task level.batch level.owners).matching store condition := by
  obtain ⟨call, _, started, paired⟩ := dresses
  obtain ⟨made, madeStart, sameCollection, answers⟩ := finds
  rw [started] at madeStart
  cases madeStart
  rw [← answers, ← sameCollection]
  exact (List.of_mem_zip paired).1

/-- A step that asks for one owner finds what satisfies the query for its identity. -/
theorem Dresses.satisfies_of_asksAlone (sound : level.Sound) (ofOwner : step.OfOwner)
    (alone : step.AsksAlone level.batch) (served : owner ∈ level.owners)
    (dresses : level.Dresses store step related origin record) :
    origin ∈ step.targets store ∧
      satisfies origin
        [(step.relatedField, (owner.read? step.ownerIdentity).getD .null)] = true := by
  have few : level.owners.length ≤ 1 := by
    rcases alone with isSingle | ⟨foreignKeys, join⟩
    · exact sound.alone isSingle
    · by_contra several
      obtain ⟨call, nested, started, _⟩ := dresses
      have refused := Task.start_listing_of_many (step.task level.batch level.owners) join
        (by simp [Step.task]; omega)
      rw [refused] at started
      cases started
  have only : level.owners = [owner] := by
    have positive := List.length_pos_of_mem served
    obtain ⟨single, isSingle⟩ := List.length_eq_one_iff.mp (by omega : level.owners.length = 1)
    rw [isSingle] at served ⊢
    rw [List.mem_singleton.mp served]
  have firstKey : (step.task level.batch level.owners).firstKey =
      (owner.read? step.ownerIdentity).getD .null := by
    rw [only, ← ofOwner.ownerField_eq]
    rfl
  have finds : (step.task level.batch level.owners).Finds .many
      ((owner.read? step.ownerIdentity).getD .null) := by
    rw [← firstKey]
    have listing : step.join.IsListing →
        (step.task level.batch level.owners).Finds .many
          (step.task level.batch level.owners).firstKey := by
      intro isListing
      exact Task.finds_listing isListing (by simp [Step.task, few])
    rcases ofOwner with isChild | isListing
    · rcases alone with isSingle | isListing
      · exact Task.finds_child isSingle isChild
      · exact listing isListing
    · exact listing isListing
  exact List.mem_filter.mp (dresses.mem_matching finds)

/-- An owner of a batch is given stored records whose key field, when it is compared, equals
its identity. -/
theorem Dresses.equal_of_batched (ofOwner : step.OfOwner)
    (batched : ¬ step.AsksAlone level.batch)
    (given : level.Gives step related owner record)
    (dresses : level.Dresses store step related origin record) :
    origin ∈ step.targets store ∧ ∃ key held, owner.read? step.ownerIdentity = some key ∧
      record.read? step.relatedField = some held ∧ key.equal held = true := by
  obtain ⟨isMany, notListing⟩ := Step.batched_of_not_asksAlone batched
  obtain ⟨keys, finds, asked⟩ := Task.finds_keys (step.task level.batch level.owners)
    (Or.inl ⟨isMany, notListing⟩)
  have found := (Task.mem_matching_keys_iff asked store origin).mp (dresses.mem_matching finds)
  have shared := given.mem_share
  rw [Task.share_many _ isMany notListing, Task.mem_withKey_iff] at shared
  obtain ⟨_, held, read, key, inKeys, sameValue⟩ := shared
  have isKey : key ∈ step.join.keysIn (owner.read? step.ownerField) := inKeys
  rw [ofOwner.keysIn_eq, ofOwner.ownerField_eq, Option.mem_toList] at isKey
  exact ⟨found.1, key, held, isKey, read, sameValue⟩

end Level

/-! ## Attached records point at their owners -/

/-- In a call that succeeds, every record that a relation by the identity of owners attaches
on some level is a stored record of the target, and it points at the owner it is attached
to, with the exceptions listed. -/
theorem attached_pointsAt_iff {adapter : Adapter} {session : Session}
    (storeFormed : session.store.WellFormed) {top level : Level}
    (opened : adapter.Opens session top) (entered : top.Enters session.store level)
    {step : Step} (ofOwner : step.OfOwner) {related : List Document}
    (loads : level.Loads session.store step related) {owner record : Document}
    (given : level.Gives step related owner record) :
    (∃ origin, level.Dresses session.store step related origin record) ∧
      ∀ origin, level.Dresses session.store step related origin record →
        origin ∈ step.targets session.store ∧
          (step.PointsAt origin (owner.read? step.ownerIdentity) ↔
            ¬ step.Misdirects level.batch (owner.read? step.ownerIdentity) origin record) := by
  have sound : level.Sound := entered.sound storeFormed (opened.sound storeFormed)
  have unless_misdirected : ∀ {origin : Document},
      (¬ step.PointsAt origin (owner.read? step.ownerIdentity) →
        step.Misdirects level.batch (owner.read? step.ownerIdentity) origin record) →
      (step.PointsAt origin (owner.read? step.ownerIdentity) ↔
        ¬ step.Misdirects level.batch (owner.read? step.ownerIdentity) origin record) := by
    intro origin misdirected
    exact ⟨fun points misdirects => misdirects.not_pointsAt points,
      fun directed => by_contra fun elsewhere => directed (misdirected elsewhere)⟩
  refine ⟨loads.exists_dresses given.mem_related, ?_⟩
  intro origin dresses
  by_cases alone : step.AsksAlone level.batch
  · obtain ⟨stored, found⟩ :=
      dresses.satisfies_of_asksAlone sound ofOwner alone given.mem_owners
    exact ⟨stored, unless_misdirected (Step.misdirects_of_satisfies alone found)⟩
  · obtain ⟨stored, key, held, present, read, sameValue⟩ :=
      dresses.equal_of_batched ofOwner alone given
    have keyFormed : key.WellFormed :=
      Value.WellFormed.read? (sound.formed owner given.mem_owners) present
    exact ⟨stored, unless_misdirected (Step.misdirects_of_equal alone present keyFormed
      (storeFormed _ origin stored) read sameValue)⟩

/-- A post of nobody. -/
def orphanStore : Store where
  collections := [("posts", [[("id", .string "p1")]])]
  unavailable := []
  log := []

set_option maxRecDepth 100000 in
/-- A user without identity gets the post of nobody, which does not point at it. -/
theorem attached_pointsAt_iff_orphan :
    orphanStore.WellFormed ∧
      ∃ top : Level, blog.Opens ⟨orphanStore, []⟩ top ∧ top.Enters orphanStore top ∧
        blogPosts.OfOwner ∧
        top.Loads orphanStore blogPosts [[("id", .string "p1")]] ∧
        top.Gives blogPosts [[("id", .string "p1")]] [("name", .string "Ann")]
          [("id", .string "p1")] ∧
        ∃ origin, top.Dresses orphanStore blogPosts [[("id", .string "p1")]] origin
            [("id", .string "p1")] ∧
          ¬ blogPosts.PointsAt origin none := by
  have formed : orphanStore.WellFormed := by
    apply Store.wellFormed_of_collections
    simp [orphanStore, Document.WellFormed, Value.WellFormed, Value.WellFormedEntries]
  have ownerFormed : Document.WellFormed [("name", .string "Ann")] := by
    simp [Document.WellFormed, Value.WellFormed, Value.WellFormedEntries]
  have succeeds : ((blog.resolveOne .direct blogUser [("name", .string "Ann")]
      ⟨["posts"]⟩).outcome ⟨orphanStore, []⟩).1 =
      .ok [("name", .string "Ann"),
        ("posts", .array [.object [("id", .string "p1")]])] := by
    cbv
  have opened := Adapter.Opens.resolveOne ownerFormed succeeds
  have gathers : ((blog.plan blogUser ⟨["posts"]⟩).gathered orphanStore .single
      [[("name", .string "Ann")]]).outcome =
      .ok [⟨blogPosts.task .single [[("name", .string "Ann")]], [[("id", .string "p1")]]⟩] := by
    cbv
  have loads : Level.Loads ⟨blog.plan blogUser ⟨["posts"]⟩, .single, [[("name", .string "Ann")]]⟩
      orphanStore blogPosts [[("id", .string "p1")]] :=
    ⟨_, gathers, List.mem_singleton_self _⟩
  have given : Level.Gives ⟨blog.plan blogUser ⟨["posts"]⟩, .single, [[("name", .string "Ann")]]⟩
      blogPosts [[("id", .string "p1")]] [("name", .string "Ann")] [("id", .string "p1")] :=
    ⟨_, List.mem_singleton_self _, .listed (List.mem_singleton_self _)⟩
  have ofOwner : blogPosts.OfOwner := Or.inl ⟨"by", Or.inr rfl⟩
  obtain ⟨⟨origin, dresses⟩, directed⟩ :=
    attached_pointsAt_iff formed opened .start ofOwner loads given
  have noIdentity : Document.read? [("name", .string "Ann")] "id" = none := by decide
  have elsewhere : ¬ blogPosts.PointsAt origin none := by
    obtain ⟨_, exactly⟩ := directed origin dresses
    have sameIdentity : Document.read? [("name", .string "Ann")] blogPosts.ownerIdentity = none :=
      noIdentity
    rw [sameIdentity] at exactly
    exact fun points => exactly.mp points (.unidentified (Or.inl rfl) rfl)
  exact ⟨formed, _, opened, .start, ofOwner, loads, given, origin, dresses, elsewhere⟩

end RecordGraph
