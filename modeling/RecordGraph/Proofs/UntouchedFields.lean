import RecordGraph.Proofs.EqualityCriteria
import RecordGraph.Proofs.NestedLoops

/-!
# Fields that loading leaves alone

A relation writes at most one value into each owner of its level, at its own field.  A resolved
record is its owner with the values of all relations written into it one after the other, so that
it keeps whatever stands at other keys, and a value that no later relation writes over.
-/

namespace RecordGraph

/-! ## Writes into one owner -/

namespace Loaded

/-- What a relation writes into the owner at an index, if anything. -/
def write? (entry : Loaded) (index : Nat) : Option (String × Value) :=
  (entry.task.attachments entry.related)[index]?.join.map fun value =>
    (entry.task.step.relation.localField, value)

/-- What the relations of a level write into the owner at an index, in their order. -/
def writesAt (loaded : List Loaded) (index : Nat) : List (String × Value) :=
  loaded.filterMap (·.write? index)

theorem getElem?_attach (entry : Loaded) {owners : List Document}
    (complete : (entry.task.attachments entry.related).length = owners.length) (index : Nat) :
    (entry.task.attach entry.related owners)[index]? =
      owners[index]?.map (·.writeAll (entry.write? index).toList) := by
  rw [Task.attach, attachAll, List.getElem?_zipWith, write?]
  by_cases inside : index < owners.length
  · have given : index < (entry.task.attachments entry.related).length := complete ▸ inside
    rw [List.getElem?_eq_getElem inside, List.getElem?_eq_getElem given]
    cases (entry.task.attachments entry.related)[index] <;> rfl
  · rw [List.getElem?_eq_none (not_lt.mp inside)]
    rfl

/-- Attached relation by relation, every owner gets what is written into it. -/
theorem getElem?_attachTo {loaded : List Loaded} {owners : List Document}
    (complete : ∀ entry ∈ loaded,
      (entry.task.attachments entry.related).length = owners.length) (index : Nat) :
    (attachTo owners loaded)[index]? = owners[index]?.map (·.writeAll (writesAt loaded index)) := by
  induction loaded generalizing owners with
  | nil => exact Option.map_id'.symm
  | cons entry rest inductionHypothesis =>
      obtain ⟨entryComplete, restComplete⟩ := List.forall_mem_cons.mp complete
      have sameLength : (entry.task.attach entry.related owners).length = owners.length := by
        rw [Task.attach, attachAll, List.length_zipWith, entryComplete, Nat.min_self]
      have later := inductionHypothesis (sameLength ▸ restComplete)
      rw [entry.getElem?_attach entryComplete, Option.map_map] at later
      rw [attachTo, List.foldl_cons, ← attachTo, later, writesAt, writesAt, List.filterMap_cons]
      cases entry.write? index <;> rfl

end Loaded

/-! ## Levels -/

section Levels

variable {adapter : Adapter} {mapper : Mapper} {load : EagerLoad} {plan : Plan} {batch : Batch}
  {owners resolved : List Document} {store : Store} {loaded : List Loaded}

/-- The relations of a mapper that a list selects. -/
def EagerLoad.selected (load : EagerLoad) (mapper : Mapper) : List Relation :=
  mapper.relations.filter fun relation =>
    load.matched? relation.target relation.localField ≠ none

namespace Level

theorem Loads.relation_mem_selected {level : Level} {step : Step} {related : List Document}
    (loads : level.Loads store step related)
    (planned : level.plan = adapter.plan mapper load) : step.relation ∈ load.selected mapper := by
  obtain ⟨offered, name, selected⟩ := loads.offers planned
  exact List.mem_filter.mpr ⟨offered.declared, by simp [selected]⟩

theorem exists_loads_of_mem_gathered
    (gathers : (plan.gathered store batch owners).outcome = .ok loaded) {entry : Loaded}
    (member : entry ∈ loaded) :
    ∃ step related, entry = ⟨step.task batch owners, related⟩ ∧
      Level.Loads ⟨plan, batch, owners⟩ store step related := by
  obtain ⟨step, _, _, isTask, _⟩ := Plan.contains_of_mem_gathered gathers member
  obtain ⟨task, related⟩ := entry
  obtain rfl : task = step.task batch owners := isTask
  exact ⟨step, related, rfl, loaded, gathers, member⟩

/-- On a level, a relation attaches a value to the record at an index. -/
def Attaches (level : Level) (store : Store) (relation : Relation) (index : Nat) (value : Value) :
    Prop :=
  ∃ step related, level.Loads store step related ∧ step.relation = relation ∧
    ((step.task level.batch level.owners).attachments related)[index]? = some (some value)

end Level

namespace Plan

theorem getElem?_attachTo (gathers : (plan.gathered store batch owners).outcome = .ok loaded)
    {current : List Document} (sameLength : current.length = owners.length) (index : Nat) :
    (Loaded.attachTo current loaded)[index]? =
      current[index]?.map (·.writeAll (Loaded.writesAt loaded index)) := by
  apply Loaded.getElem?_attachTo
  intro entry member
  obtain ⟨step, related, rfl, _⟩ := Level.exists_loads_of_mem_gathered gathers member
  rw [step.attachments_task, List.length_map, sameLength]

theorem exists_loads_of_mem_writesAt
    (gathers : (plan.gathered store batch owners).outcome = .ok loaded) {index : Nat}
    {entry : String × Value} (member : entry ∈ Loaded.writesAt loaded index) :
    ∃ step related, Level.Loads ⟨plan, batch, owners⟩ store step related ∧
      (Loaded.mk (step.task batch owners) related).write? index = some entry := by
  obtain ⟨found, inLoaded, written⟩ := List.mem_filterMap.mp member
  obtain ⟨step, related, rfl, loads⟩ := Level.exists_loads_of_mem_gathered gathers inLoaded
  exact ⟨step, related, loads, written⟩

end Plan

/-! ## What stays and what is attached -/

/-- A record has the keys of its owner first and in their order, and the same values except at
some keys. -/
structure Document.Extends (changed : List String) (owner record : Document) : Prop where
  keys : owner.keys <+: record.keys
  kept : ∀ key, key ∉ changed → record.get? key = owner.get? key

theorem Document.extends_writeAll {changed : List String} {writes : List (String × Value)}
    (within : ∀ entry ∈ writes, firstSegment entry.1 ∈ changed) (owner : Document) :
    Extends changed owner (owner.writeAll writes) where
  keys := owner.keys_prefix_writeAll writes
  kept := by
    intro key unchanged
    apply get?_writeAll_of_ne
    intro entry member isChanged
    exact unchanged (isChanged ▸ within entry member)

/-- Resolved records are those that were given, in their order, with changes only at the fields of
selected relations.  What a relation attaches is read at its field in the end, unless a relation
after it is attached at the same key. -/
structure Adapter.KeepsRest (adapter : Adapter) (mapper : Mapper) (load : EagerLoad)
    (store : Store) (batch : Batch) (owners resolved : List Document) : Prop where
  records : List.Forall₂
    (Document.Extends ((load.selected mapper).map fun relation => firstSegment relation.localField))
    owners resolved
  attached : ∀ before relation after, mapper.relations = before ++ relation :: after →
    load.Spares after relation.localField →
      ∀ index value,
        Level.Attaches ⟨adapter.plan mapper load, batch, owners⟩ store relation index value →
          resolved[index]?.bind (·.read? relation.localField) = some value

namespace Adapter

theorem extends_of_resolved
    (resolves : ((adapter.plan mapper load).resolved store batch owners).outcome = .ok resolved) :
    List.Forall₂
      (Document.Extends
        ((load.selected mapper).map fun relation => firstSegment relation.localField))
      owners resolved := by
  by_cases empty : owners = []
  · subst empty
    obtain rfl : resolved = [] := (Except.ok.inj resolves).symm
    exact .nil
  · obtain ⟨loaded, gathers, rfl⟩ :=
      (Plan.outcome_resolved_eq_ok_iff _ store batch empty resolved).mp resolves
    rw [List.forall₂_iff_get]
    refine ⟨(Plan.length_resolved resolves).symm, ?_⟩
    intro index inOwners inResolved
    have isWritten := Plan.getElem?_attachTo gathers rfl index
    rw [List.getElem?_eq_getElem inOwners, List.getElem?_eq_getElem inResolved, Option.map_some,
      Option.some_inj] at isWritten
    rw [List.get_eq_getElem, List.get_eq_getElem, isWritten]
    apply Document.extends_writeAll
    intro entry member
    obtain ⟨step, related, loads, written⟩ := Plan.exists_loads_of_mem_writesAt gathers member
    obtain ⟨value, _, rfl⟩ := Option.map_eq_some_iff.mp written
    exact List.mem_map_of_mem (loads.relation_mem_selected rfl)

theorem read?_of_attaches
    (resolves : ((adapter.plan mapper load).resolved store batch owners).outcome = .ok resolved)
    {before after : List Relation} {relation : Relation}
    (declared : mapper.relations = before ++ relation :: after)
    (afterSpares : load.Spares after relation.localField) {index : Nat} {value : Value}
    (attaches :
      Level.Attaches ⟨adapter.plan mapper load, batch, owners⟩ store relation index value) :
    resolved[index]?.bind (·.read? relation.localField) = some value := by
  obtain ⟨step, related, loads, rfl, isValue⟩ := attaches
  have inside : index < owners.length := by
    obtain ⟨inAttachments, _⟩ := List.getElem?_eq_some_iff.mp isValue
    rwa [step.attachments_task, List.length_map] at inAttachments
  obtain ⟨reached, _, isRead⟩ := loads.map_read?_resolved
    (List.ne_nil_of_length_pos (by omega)) resolves declared afterSpares
  have readHere := congrArg (·[index]?) isRead
  have isThere : index < resolved.length := by
    rwa [Plan.length_resolved resolves]
  simp only [List.getElem?_map, List.getElem?_zipWith, isValue, List.getElem?_eq_getElem isThere]
    at readHere ⊢
  cases reachedHere : reached[index]? with
  | none =>
      rw [reachedHere] at readHere
      cases readHere
  | some prior =>
      rw [reachedHere] at readHere
      exact Option.some.inj readHere

theorem keepsRest_of_resolved
    (resolves : ((adapter.plan mapper load).resolved store batch owners).outcome = .ok resolved) :
    adapter.KeepsRest mapper load store batch owners resolved where
  records := extends_of_resolved resolves
  attached := fun _ _ _ declared afterSpares _ _ attaches =>
    read?_of_attaches resolves declared afterSpares attaches

/-- Whatever is resolved keeps its number and order, its keys with theirs, and the values at all
of them that are not the first segment of the field of a selected relation. -/
theorem resolving_keeps_rest (adapter : Adapter) (pace : Pace) (session : Session)
    (mapper : Mapper) (load : EagerLoad) :
    (∀ owners resolved,
      ((adapter.resolveMany pace mapper owners load).outcome session).1 = .ok resolved →
        adapter.KeepsRest mapper load session.store .many owners resolved) ∧
      ∀ owner resolved,
        ((adapter.resolveOne pace mapper owner load).outcome session).1 = .ok resolved →
          adapter.KeepsRest mapper load session.store .single [owner] [resolved] := by
  constructor
  · intro owners resolved resolves
    rw [resolveMany, outcome_resolve_eq_ok_iff] at resolves
    exact keepsRest_of_resolved resolves
  · intro owner resolved resolves
    rw [outcome_resolveOne_eq_ok_iff] at resolves
    exact keepsRest_of_resolved resolves

end Adapter

end Levels

/-! ## Posts with details -/

/-- The mapper of posts, which get their authors below their details. -/
def detailedPost : Mapper :=
  (((Mapper.named "p").withTable "posts").withRelation
    (.belongsTo "u" "details.author" "by")).withRelation (.hasMany "p" "replies" "to")

def detailed : Adapter := ⟨⟨[detailedPost, (Mapper.named "u").withTable "users"]⟩, .default⟩

/-- A post with details, and one by somebody unknown. -/
def detailedPosts : List Document :=
  [[("details", .object [("lang", .string "no")]), ("id", .string "p1"), ("by", .string "u2")],
    [("by", .string "u3")]]

def detailedAuthor : Step :=
  ⟨.belongsTo "u" "details.author" "by", .parent "by", (Mapper.named "u").withTable "users", "id",
    "id"⟩

def detailedReplies : Step :=
  ⟨.hasMany "p" "replies" "to", .children "to", detailedPost, "id", "id"⟩

/-- The posts with their authors and replies. -/
def detailedResolved : List Document :=
  [[("details", .object [("lang", .string "no"), ("author", .object [("id", .string "u2")])]),
      ("id", .string "p1"), ("by", .string "u2"), ("replies", .array [])],
    [("by", .string "u3"), ("replies", .array [])]]

set_option maxRecDepth 100000 in
theorem detailedPosts_resolved :
    ((detailed.resolveMany .direct detailedPost detailedPosts ⟨["u", "replies"]⟩).outcome
      ⟨blogStore, []⟩).1 = .ok detailedResolved := by
  cbv

set_option maxRecDepth 100000 in
/-- The first post keeps its details beside the author, and both keep all else. -/
theorem resolving_keeps_rest_detailed :
    ((detailed.resolveMany .direct detailedPost detailedPosts ⟨["u", "replies"]⟩).outcome
        ⟨blogStore, []⟩).1 = .ok detailedResolved ∧
      List.Forall₂ (Document.Extends ["details", "replies"]) detailedPosts detailedResolved ∧
      detailedResolved[0]?.bind (·.read? "details.author") =
        some (.object [("id", .string "u2")]) ∧
      ∃ single,
        ((detailed.resolveOne .direct detailedPost [("by", .string "u1")] ⟨["u"]⟩).outcome
          ⟨blogStore, []⟩).1 = .ok single ∧
        Document.Extends ["details"] [("by", .string "u1")] single := by
  have resolvesSingle : ((detailed.resolveOne .direct detailedPost [("by", .string "u1")]
      ⟨["u"]⟩).outcome ⟨blogStore, []⟩).1 = .ok [("by", .string "u1"),
        ("details", .object [("author", .object [("id", .string "u1")])])] := by
    cbv
  have gathers : ((detailed.plan detailedPost ⟨["u", "replies"]⟩).gathered blogStore .many
      detailedPosts).outcome = .ok
        [⟨detailedAuthor.task .many detailedPosts, [[("id", .string "u2")]]⟩,
          ⟨detailedReplies.task .many detailedPosts, []⟩] := by
    cbv
  obtain ⟨manyKept, _⟩ := detailed.resolving_keeps_rest .direct ⟨blogStore, []⟩ detailedPost
    ⟨["u", "replies"]⟩
  obtain ⟨_, oneKept⟩ := detailed.resolving_keeps_rest .direct ⟨blogStore, []⟩ detailedPost ⟨["u"]⟩
  have attaches : Level.Attaches ⟨detailed.plan detailedPost ⟨["u", "replies"]⟩, .many,
      detailedPosts⟩ blogStore detailedAuthor.relation 0 (.object [("id", .string "u2")]) :=
    ⟨detailedAuthor, _, ⟨_, gathers, List.mem_cons_self⟩, rfl, by cbv⟩
  have spared : EagerLoad.Spares ⟨["u", "replies"]⟩ [.hasMany "p" "replies" "to"]
      "details.author" := by
    intro relation member _
    rw [List.mem_singleton.mp member]
    decide
  have kept := manyKept _ _ detailedPosts_resolved
  exact ⟨detailedPosts_resolved, kept.records, kept.attached [] _ _ rfl spared 0 _ attaches, _,
    resolvesSingle, (List.forall₂_cons.mp (oneKept _ _ resolvesSingle).records).1⟩

end RecordGraph
