import Mathlib
import RecordGraph.Proofs.Clobbering
import RecordGraph.Proofs.LooseEquality

/-!
# Owners of a batch are served alone

The relations of a level share one query for all owners.  What an owner is given
nevertheless depends on this owner alone: among the found records those for a key of
an owner are the same, whichever other owners the query is made for, and the level
below treats each of them alone as well.
-/

namespace RecordGraph

/-! ## Well-formed records -/

/-- No object inside a record has a key twice. -/
def Document.WellFormed (document : Document) : Prop := (Value.object document).WellFormed

/-- All stored records are well-formed. -/
def Store.WellFormed (store : Store) : Prop :=
  ∀ collection, ∀ record ∈ store.records collection, record.WellFormed

theorem Store.wellFormed_of_collections {store : Store}
    (formed : ∀ entry ∈ store.collections, ∀ record ∈ entry.2, record.WellFormed) :
    store.WellFormed := by
  intro collection record member
  unfold records at member
  cases found : store.collections.lookup collection with
  | none => simp [found] at member
  | some held =>
      rw [found] at member
      obtain ⟨before, after, shape, _⟩ := List.lookup_eq_some_iff.mp found
      have listed : (collection, held) ∈ store.collections := by
        rw [shape]
        exact List.mem_append_right before List.mem_cons_self
      exact formed _ listed record member

theorem wellFormed_of_mem_keysIn {join : Join} {held : Option Value}
    (formed : ∀ value, held = some value → value.WellFormed) {key : Value}
    (member : key ∈ join.keysIn held) : key.WellFormed := by
  have direct : key ∈ held.toList → key.WellFormed := fun isHeld =>
    formed key (Option.mem_toList.mp isHeld)
  cases join with
  | listed localKeys =>
      rcases held with _ | value
      · simp [Join.keysIn, Task.listedKeys] at member
      · cases value with
        | array items => exact (formed _ rfl).item member
        | object entries =>
            obtain ⟨name, _, rfl⟩ := List.mem_map.mp member
            trivial
        | _ => simp [Join.keysIn, Task.listedKeys] at member
  | _ => exact direct member

/-! ## Records for a key -/

theorem truthy_of_isOrContains {held key : Value} (found : IsOrContains (some held) key)
    (truthy : key.truthy = true) : held.truthy = true := by
  cases found with
  | whole sameValue => rwa [Value.truthy_eq_of_equal sameValue]
  | item => rfl

namespace Task

theorem mem_withKey_iff (field : String) (keys : List Value) (related : List Document)
    (record : Document) :
    record ∈ withKey field keys related ↔
      record ∈ related ∧
        ∃ held, record.read? field = some held ∧ ∃ key ∈ keys, key.equal held = true := by
  rw [withKey, List.mem_filter]
  cases record.read? field with
  | none => simp
  | some held => simp

/-- Records can be dressed before or after those for some keys are taken, as long as
this leaves the compared field alone. -/
theorem withKey_map {field : String} {dress : Document → Document}
    (kept : ∀ record, (dress record).read? field = record.read? field) (keys : List Value)
    (related : List Document) :
    withKey field keys (related.map dress) = (withKey field keys related).map dress := by
  simp only [withKey, List.filter_map, Function.comp_def, kept]

theorem withKey_filter_congr {field : String} {keys : List Value} {records : List Document}
    {first second : Document → Bool}
    (agree : ∀ record ∈ records, ∀ held, record.read? field = some held →
      (∃ key ∈ keys, key.equal held = true) → first record = second record) :
    withKey field keys (records.filter first) = withKey field keys (records.filter second) := by
  simp only [withKey, List.filter_filter]
  apply List.filter_congr
  intro record member
  cases read : record.read? field with
  | none => simp
  | some held =>
      cases equal : keys.any (·.equal held) with
      | false => simp [equal]
      | true =>
          have same := agree record member held read (List.any_eq_true.mp equal)
          simp [same]

/-- Every record with a key of an owner is found, if others of its kind are: a record
that equals a key is found for it, and a falsy key is equal to no record that is found
for another one. -/
theorem accepts_own_record {task : Task} {held : Option Value} (owns : held ∈ task.keys)
    (keysFormed : ∀ key ∈ task.step.join.keysIn held, key.WellFormed) {value : Value}
    (valueFormed : value.WellFormed)
    (equals : ∃ key ∈ task.step.join.keysIn held, key.equal value = true)
    (truthy : value.truthy = true) :
    ∃ key, task.AsksFor key ∧ IsOrContains (some value) key := by
  obtain ⟨key, member, sameValue⟩ := equals
  refine ⟨key, ⟨?_, held, owns, member⟩, .whole ?_⟩
  · rwa [Value.truthy_eq_of_equal sameValue]
  · exact Value.equal_symm (keysFormed key member) valueFormed sameValue

/-- The records for the keys of an owner do not depend on which other owners a query is
made for. -/
theorem withKey_matching (first second : Task) (sameStep : first.step = second.step)
    (fewer : ∀ held ∈ first.keys, held ∈ second.keys) {store : Store}
    (storeFormed : store.WellFormed) {firstKeys secondKeys : List Value}
    (firstAsked : ∀ key, key ∈ firstKeys ↔ first.AsksFor key)
    (secondAsked : ∀ key, key ∈ secondKeys ↔ second.AsksFor key) {held : Option Value}
    (owns : held ∈ first.keys) (heldFormed : ∀ value, held = some value → value.WellFormed) :
    withKey first.step.relatedField (first.step.join.keysIn held)
        (first.matching store (Operator.member.condition (.array firstKeys))) =
      withKey first.step.relatedField (first.step.join.keysIn held)
        (second.matching store (Operator.member.condition (.array secondKeys))) := by
  unfold matching collection
  rw [← sameStep]
  apply withKey_filter_congr
  intro record member value read equals
  have valueFormed : value.WellFormed := Value.WellFormed.read? (storeFormed _ record member) read
  rw [Bool.eq_iff_iff, satisfies_member_iff, satisfies_member_iff, read]
  apply and_congr_right
  intro _
  simp only [firstAsked, secondAsked]
  constructor
  · intro found
    obtain ⟨key, ⟨truthy, other, otherOwns, member⟩, holds⟩ := found
    exact ⟨key, ⟨truthy, other, fewer other otherOwns, sameStep ▸ member⟩, holds⟩
  · intro found
    obtain ⟨key, ⟨truthy, _⟩, holds⟩ := found
    exact accepts_own_record owns (fun _ => wellFormed_of_mem_keysIn heldFormed) valueFormed
      equals (truthy_of_isOrContains holds truthy)

theorem matching_sublist (first second : Task) (sameStep : first.step = second.step)
    (fewer : ∀ held ∈ first.keys, held ∈ second.keys) (store : Store)
    {firstKeys secondKeys : List Value}
    (firstAsked : ∀ key, key ∈ firstKeys ↔ first.AsksFor key)
    (secondAsked : ∀ key, key ∈ secondKeys ↔ second.AsksFor key) :
    (first.matching store (Operator.member.condition (.array firstKeys))).Sublist
      (second.matching store (Operator.member.condition (.array secondKeys))) := by
  unfold matching collection
  rw [← sameStep]
  apply List.monotone_filter_right
  intro record satisfied
  rw [satisfies_member_iff] at satisfied ⊢
  obtain ⟨noGroup, key, member, holds⟩ := satisfied
  obtain ⟨truthy, held, owns, inHeld⟩ := (firstAsked key).mp member
  exact ⟨noGroup, key,
    (secondAsked key).mpr ⟨truthy, held, fewer held owns, sameStep ▸ inHeld⟩, holds⟩

end Task

/-! ## Levels -/

namespace Plan

/-- Loading succeeds for every selection of the owners, and does to each owner what is
said of it, whatever has been attached to it before. -/
def ServesEach (plan : Plan) (store : Store) (owners : List Document)
    (serve : Document → Document → Document) : Prop :=
  ∀ chosen, chosen.Sublist owners → chosen ≠ [] → ∃ loaded,
    (plan.gathered store .many chosen).outcome = .ok loaded ∧
      ∀ current : Document → Document,
        Loaded.attachTo (chosen.map current) loaded =
          chosen.map fun owner => serve owner (current owner)

/-- Fields that a plan spares are left alone. -/
def LeavesSpared (plan : Plan) (serve : Document → Document → Document) : Prop :=
  ∀ field, plan.Spares field → ∀ owner current,
    (serve owner current).read? field = current.read? field

/-- A level that serves each owner dresses every selection of its owners alike. -/
theorem exists_dress {plan : Plan} {store : Store} {owners related : List Document}
    (loads : (plan.resolved store .many owners).outcome = .ok related)
    (serves : ∀ loaded, (plan.gathered store .many owners).outcome = .ok loaded →
      ∃ serve, plan.ServesEach store owners serve ∧ plan.LeavesSpared serve) :
    ∃ dress : Document → Document,
      (∀ field, plan.Spares field → ∀ record,
        (dress record).read? field = record.read? field) ∧
      ∀ chosen, chosen.Sublist owners →
        (plan.resolved store .many chosen).outcome = .ok (chosen.map dress) := by
  by_cases empty : owners = []
  · refine ⟨id, fun _ _ _ => rfl, ?_⟩
    intro chosen selected
    rw [empty, List.sublist_nil] at selected
    rw [selected]
    exact outcome_resolved_nil plan store .many
  · obtain ⟨loaded, gathers, _⟩ :=
      (outcome_resolved_eq_ok_iff plan store .many empty related).mp loads
    obtain ⟨serve, servesEach, spared⟩ := serves loaded gathers
    refine ⟨fun record => serve record record, fun field spares record =>
      spared field spares record record, ?_⟩
    intro chosen selected
    by_cases noneChosen : chosen = []
    · rw [noneChosen]
      exact outcome_resolved_nil plan store .many
    · obtain ⟨chosenLoaded, chosenGathers, attaches⟩ := servesEach chosen selected noneChosen
      rw [outcome_resolved_eq_ok_iff plan store .many noneChosen]
      refine ⟨chosenLoaded, chosenGathers, ?_⟩
      have attached := attaches id
      rw [List.map_id] at attached
      exact attached.symm

/-- What a task gives to an owner does not depend on the other owners. -/
def GivesEach (step : Step) (below : Plan) (store : Store) (owners : List Document)
    (attach : Document → Option Value) : Prop :=
  ∀ chosen, chosen.Sublist owners → chosen ≠ [] → ∃ related,
    ((step.task .many chosen).related store fun nested found =>
      below.resolved store nested found).outcome = .ok related ∧
    (step.task .many chosen).attachments related = chosen.map attach

/-- Records that list their owner are looked for with one owner only. -/
theorem exists_attach_of_listing {step : Step} {below : Plan} {store : Store}
    {owners related : List Document} (isListing : step.join.IsListing)
    (loads : ((step.task .many owners).related store fun nested found =>
      below.resolved store nested found).outcome = .ok related) :
    ∃ attach, GivesEach step below store owners attach := by
  obtain ⟨foreignKeys, join⟩ := isListing
  have few : owners.length ≤ 1 := by
    by_contra many
    have refused := Task.start_listing_of_many (step.task .many owners) join
      (by simp [Step.task]; omega)
    rw [Task.outcome_related_eq_ok_iff, refused] at loads
    simp at loads
  refine ⟨fun _ => step.join.give related, ?_⟩
  intro chosen selected nonempty
  have all : chosen = owners := by
    apply selected.eq_of_length_le
    have positive := List.length_pos_iff.mpr nonempty
    omega
  refine ⟨related, all ▸ loads, ?_⟩
  rw [Step.attachments_task]
  simp [Task.share, Step.task, join]

/-- A task gives every owner the records for its keys, dressed by the level below. -/
theorem exists_attach_of_keys {step : Step} {below : Plan} {store : Store}
    {owners related : List Document} (storeFormed : store.WellFormed)
    (ownersFormed : ∀ owner ∈ owners, owner.WellFormed)
    (notListing : ¬ step.join.IsListing) (spares : below.Spares step.relatedField)
    (belowServes : ∀ (found : List Document) (loaded : List Loaded),
      (∀ record ∈ found, record.WellFormed) →
      (below.gathered store .many found).outcome = .ok loaded →
      ∃ serve, below.ServesEach store found serve ∧ below.LeavesSpared serve)
    (loads : ((step.task .many owners).related store fun nested found =>
      below.resolved store nested found).outcome = .ok related) :
    ∃ attach, GivesEach step below store owners attach := by
  obtain ⟨keys, finds, asked⟩ := Task.finds_keys (step.task .many owners)
    (Or.inl ⟨rfl, notListing⟩)
  obtain ⟨accepted, loadsFound⟩ := (finds.outcome_related_eq_ok_iff store _ related).mp loads
  obtain ⟨dress, kept, dresses⟩ := exists_dress loadsFound fun loaded gathers =>
    belowServes _ loaded (fun record member =>
      storeFormed _ record (List.mem_of_mem_filter member)) gathers
  refine ⟨fun owner => step.join.give ((Task.withKey step.relatedField
    (step.join.keysIn (owner.read? step.ownerField))
    ((step.task .many owners).matching store (Operator.member.condition (.array keys)))).map
      dress), ?_⟩
  intro chosen selected nonempty
  obtain ⟨chosenKeys, chosenFinds, chosenAsked⟩ := Task.finds_keys
    (step.task .many chosen) (Or.inl ⟨rfl, notListing⟩)
  have fewer : ∀ held ∈ (step.task .many chosen).keys, held ∈ (step.task .many owners).keys :=
    (selected.map _).subset
  have narrower := Task.matching_sublist (step.task .many chosen)
    (step.task .many owners) rfl fewer store chosenAsked asked
  refine ⟨_, (chosenFinds.outcome_related_eq_ok_iff store _ _).mpr
    ⟨accepted, dresses _ narrower⟩, ?_⟩
  rw [Step.attachments_task]
  apply List.map_congr_left
  intro owner member
  have owns : owner.read? step.ownerField ∈ (step.task .many chosen).keys :=
    List.mem_map_of_mem member
  have heldFormed : ∀ value, owner.read? step.ownerField = some value → value.WellFormed :=
    fun value read => Value.WellFormed.read? (ownersFormed owner (selected.subset member)) read
  have sameShare := Task.withKey_matching (step.task .many chosen)
    (step.task .many owners) rfl fewer storeFormed chosenAsked asked owns heldFormed
  rw [Task.share_many _ rfl notListing]
  have keptField := kept step.relatedField spares
  have dressed := Task.withKey_map keptField
    (step.join.keysIn (owner.read? step.ownerField))
    ((step.task .many chosen).matching store (Operator.member.condition (.array chosenKeys)))
  exact congrArg step.join.give (dressed.trans (congrArg (List.map dress) sameShare))

/-- A level of a batch that loads serves each of its owners alone. -/
theorem exists_serve {plan : Plan} (fine : plan.NonClobbering) {store : Store}
    (storeFormed : store.WellFormed) {owners : List Document}
    (ownersFormed : ∀ owner ∈ owners, owner.WellFormed) {loaded : List Loaded}
    (gathers : (plan.gathered store .many owners).outcome = .ok loaded) :
    ∃ serve, plan.ServesEach store owners serve ∧ plan.LeavesSpared serve := by
  induction plan generalizing owners loaded with
  | done =>
      refine ⟨fun _ current => current, ?_, fun _ _ _ _ => rfl⟩
      intro chosen _ _
      exact ⟨[], rfl, fun _ => rfl⟩
  | unknown target => simp [gathered, Transcript.fail] at gathers
  | load step below rest belowHypothesis restHypothesis =>
      obtain ⟨spares, belowFine, restFine⟩ := fine
      obtain ⟨related, later, loadsRelated, loadsLater, _⟩ :=
        (outcome_gathered_load_eq_ok_iff store .many owners step below rest loaded).mp gathers
      obtain ⟨serve, servesEach, spared⟩ := restHypothesis restFine ownersFormed loadsLater
      have exists_attach : ∃ attach, GivesEach step (below ()) store owners attach := by
        by_cases isListing : step.join.IsListing
        · exact exists_attach_of_listing isListing loadsRelated
        · apply exists_attach_of_keys storeFormed ownersFormed isListing (spares isListing)
            ?_ loadsRelated
          intro found _ foundFormed foundGathers
          exact belowHypothesis () belowFine foundFormed foundGathers
      obtain ⟨attach, givesEach⟩ := exists_attach
      refine ⟨fun owner current => serve owner
        (attachOne step.relation.localField current (attach owner)), ?_, ?_⟩
      · intro chosen selected nonempty
        obtain ⟨chosenRelated, loadsChosen, gives⟩ := givesEach chosen selected nonempty
        obtain ⟨chosenLater, gathersLater, attaches⟩ := servesEach chosen selected nonempty
        refine ⟨_, (outcome_gathered_load_eq_ok_iff store .many chosen step below rest _).mpr
          ⟨chosenRelated, chosenLater, loadsChosen, gathersLater, rfl⟩, ?_⟩
        intro current
        have attached : (step.task .many chosen).attach chosenRelated (chosen.map current) =
            chosen.map fun owner =>
              attachOne step.relation.localField (current owner) (attach owner) := by
          rw [Task.attach, gives]
          exact attachAll_map _ chosen current attach
        rw [Loaded.attachTo, List.foldl_cons, attached]
        exact attaches _
      · intro field sparesField owner current
        obtain ⟨part, restSpares⟩ := sparesField
        rw [spared field restSpares, read?_attachOne part]

end Plan

/-! ## Resolving several owners -/

/-- In a catalog that does not clobber keys, resolving several owners at once gives
each of them what resolving it alone gives. -/
theorem resolveMany_alone {adapter : Adapter} {mapper : Mapper}
    (fine : adapter.NonClobbering mapper) {session : Session}
    (storeFormed : session.store.WellFormed) {owners : List Document}
    (ownersFormed : ∀ owner ∈ owners, owner.WellFormed) {load : EagerLoad}
    {resolved : List Document}
    (succeeds : ((adapter.resolveMany .direct mapper owners load).outcome session).1 =
      .ok resolved) :
    resolved.length = owners.length ∧
      ∀ (index : Nat) (owner : Document), owners[index]? = some owner →
        ∃ alone, resolved[index]? = some alone ∧
          ((adapter.resolveMany .direct mapper [owner] load).outcome session).1 = .ok [alone] := by
  have followed := fun several =>
    (adapter.follows_resolve session.store .many mapper several load).outcome_eq rfl
  unfold Adapter.resolveMany at succeeds ⊢
  simp only [followed] at succeeds ⊢
  have planFine := fine.plan load
  obtain ⟨dress, _, dresses⟩ := Plan.exists_dress succeeds fun loaded gathers =>
    Plan.exists_serve planFine storeFormed ownersFormed gathers
  have all := dresses owners (List.Sublist.refl owners)
  obtain rfl : resolved = owners.map dress := Except.ok.inj (succeeds.symm.trans all)
  refine ⟨List.length_map _, ?_⟩
  intro index owner found
  refine ⟨dress owner, by simp [found], ?_⟩
  exact dresses [owner] (List.singleton_sublist.mpr (List.mem_of_getElem? found))

/-- The mapper of users, who have posts. -/
def blogUser : Mapper :=
  ((Mapper.named "u").withTable "users").withRelation (.hasMany "p" "posts" "by")

/-- The mapper of posts, which name their authors. -/
def blogPost : Mapper :=
  ((Mapper.named "p").withTable "posts").withRelation (.belongsTo "u" "author" "by")

/-- Users and posts that refer to each other. -/
def blog : Adapter := ⟨⟨[blogPost, blogUser]⟩, .default⟩

/-- Two users, of whom one has a post. -/
def blogStore : Store where
  collections :=
    [("users", [[("id", .string "u1")], [("id", .string "u2")]]),
      ("posts", [[("id", .string "p1"), ("by", .string "u2")]])]
  unavailable := []
  log := []

theorem blogStore_wellFormed : blogStore.WellFormed := by
  apply Store.wellFormed_of_collections
  simp [blogStore, Document.WellFormed, Value.WellFormed, Value.WellFormedEntries]

set_option maxRecDepth 100000 in
theorem resolveMany_alone_blog :
    blog.NonClobbering blogUser ∧ blogStore.WellFormed ∧
      (∀ owner ∈ blogStore.records "users", owner.WellFormed) ∧
      ∃ resolved,
        ((blog.resolveMany .direct blogUser (blogStore.records "users")
          ⟨["posts", "posts.author"]⟩).outcome ⟨blogStore, []⟩).1 = .ok resolved ∧
        resolved.length = 2 ∧
        ∀ (index : Nat) (owner : Document), (blogStore.records "users")[index]? = some owner →
          ∃ alone, resolved[index]? = some alone ∧
            ((blog.resolveMany .direct blogUser [owner] ⟨["posts", "posts.author"]⟩).outcome
              ⟨blogStore, []⟩).1 = .ok [alone] := by
  have fine : blog.NonClobbering blogUser := by decide
  have succeeds : ((blog.resolveMany .direct blogUser (blogStore.records "users")
      ⟨["posts", "posts.author"]⟩).outcome ⟨blogStore, []⟩).1 =
      .ok
        [[("id", .string "u1"), ("posts", .array [])],
          [("id", .string "u2"), ("posts", .array [.object
            [("id", .string "p1"), ("by", .string "u2"),
              ("author", .object [("id", .string "u2")])]])]] := by
    cbv
  exact ⟨fine, blogStore_wellFormed, blogStore_wellFormed "users", _, succeeds,
    resolveMany_alone fine blogStore_wellFormed (blogStore_wellFormed "users") succeeds⟩

end RecordGraph
