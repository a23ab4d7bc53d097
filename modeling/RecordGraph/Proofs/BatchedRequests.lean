import RecordGraph.Proofs.FirstAppearances
import RecordGraph.Proofs.LoadFailures
import RecordGraph.Proofs.NestedLoops
import RecordGraph.Proofs.RelationLogs

/-!
# One request for all owners

For the owners of a list, a relation that goes by keys makes one request with the keys of all of
them.  It asks for every truthy key once, in the order in which the owners bring them up, before
anything below the relation is asked for.
-/

namespace RecordGraph

/-! ## The call for several owners -/

namespace Step

/-- The truthy keys of all owners, in their order and with repeats. -/
def askedKeys (step : Step) (owners : List Document) : List Value :=
  (owners.flatMap fun owner => step.join.keysIn (owner.read? step.ownerField)).filter Value.truthy

/-- The call for the related records with some keys. -/
def keysCall (step : Step) (keys : List Value) : Call (List Document) :=
  .fetch (step.target.collectionName none) (Task.criterion step.relatedField "in" (.array keys))
    none

theorem request_keysCall (step : Step) (keys : List Value) :
    (step.keysCall keys).request =
      .fetch (step.target.collectionName none)
        [(step.relatedField, .object [("$in", .array keys)])] .none none := by
  have member : Comparator.ofToken? "in" = some ⟨.member, false⟩ := by decide
  rw [keysCall, Call.fetch, Task.filter_criterion member, Task.options_criterion]
  rfl

theorem usableKeys_task (step : Step) (owners : List Document) :
    (step.task .many owners).usableKeys =
      (owners.flatMap fun owner => (owner.read? step.ownerField).toList).filter Value.truthy := by
  rw [Task.usableKeys, task, List.filterMap_map, List.filterMap_eq_flatMap_toList]
  rfl

theorem listedKeys_task (step : Step) (owners : List Document) :
    (step.task .many owners).keys.flatMap Task.listedKeys =
      owners.flatMap fun owner => Task.listedKeys (owner.read? step.ownerField) := by
  rw [task, List.flatMap_map]

/-- Whether falsy keys are left out before or after repeats, each truthy key is asked for at its
first appearance. -/
theorem start_many {step : Step} (notListing : ¬ step.join.IsListing) (owners : List Document) :
    ∃ keys, FirstAppearances (step.askedKeys owners) keys ∧
      (step.task .many owners).start = .call (step.keysCall keys) .many := by
  have asksOnce : (∀ held, step.join.keysIn held = held.toList) →
      FirstAppearances (step.askedKeys owners)
        (Value.unique (step.task .many owners).usableKeys) := by
    intro keysIn
    simp only [usableKeys_task, askedKeys, keysIn]
    exact Value.firstAppearances_unique _
  cases join : step.join with
  | parent keyField =>
      refine ⟨_, asksOnce (by simp [join, Join.keysIn]), ?_⟩
      simp only [Task.start, task, join, Task.listCall, keysCall, relatedField]
  | firstChild foreignKey =>
      refine ⟨_, asksOnce (by simp [join, Join.keysIn]), ?_⟩
      simp only [Task.start, task, join, Task.listCall, keysCall, relatedField]
  | children foreignKey =>
      refine ⟨_, asksOnce (by simp [join, Join.keysIn]), ?_⟩
      simp only [Task.start, task, join, Task.listCall, keysCall, relatedField]
  | listed localKeys =>
      refine ⟨(Value.unique ((step.task .many owners).keys.flatMap Task.listedKeys)).filter
        Value.truthy, ?_, ?_⟩
      · rw [listedKeys_task, askedKeys, join]
        exact (Value.firstAppearances_unique _).filter Value.truthy
      · simp only [Task.start, task, join, Task.listCall, keysCall, relatedField]
  | listing foreignKeys => exact absurd ⟨foreignKeys, join⟩ notListing

end Step

/-! ## Positions -/

namespace EagerLoad

/-- A relation is selected by a list and has a usable key. -/
def loads (load : EagerLoad) (relation : Relation) : Bool :=
  (load.matched? relation.target relation.localField).isSome && relation.join?.isSome

/-- The position, among the relations of a mapper that are loaded, of the one at an index. -/
def position (load : EagerLoad) (mapper : Mapper) (index : Nat) : Nat :=
  (mapper.relations.take index).countP load.loads

theorem loads_iff (load : EagerLoad) (relation : Relation) :
    load.loads relation = true ↔
      load.matched? relation.target relation.localField ≠ none ∧ relation.join? ≠ none := by
  simp only [loads, Bool.and_eq_true, Option.isSome_iff_ne_none]

end EagerLoad

theorem Plan.at?_ofRelations {adapter : Adapter} {mapper : Mapper} {load : EagerLoad}
    {relations : List Relation} {index : Nat} {step : Step} {name : String}
    (known : ∀ target,
      ofRelations adapter.catalog adapter.config mapper load relations ≠ .unknown target)
    (declared : relations[index]? = some step.relation) (makes : adapter.Makes mapper step)
    (selected : load.matched? step.relation.target step.relation.localField = some name) :
    (ofRelations adapter.catalog adapter.config mapper load relations).at?
        ((relations.take index).countP load.loads) =
      some (step, adapter.plan step.target (load.descend adapter.config.prunePolicy name)) := by
  have isLoaded : load.loads step.relation = true := by
    rw [EagerLoad.loads_iff, selected, makes.keyed]
    exact ⟨Option.some_ne_none name, Option.some_ne_none step.join⟩
  induction relations generalizing index with
  | nil => cases declared
  | cons relation rest inductionHypothesis =>
      rcases ofRelations_cons_of_known known with
        ⟨restKnown, _, ⟨unused, leftOut⟩ | ⟨first, firstName, isFirst, makesFirst, matched,
          comesFirst⟩⟩
      · have notLoaded : ¬ load.loads relation = true := by
          rw [EagerLoad.loads_iff, not_and_or, not_not, not_not]
          exact unused
        cases index with
        | zero =>
            cases declared
            exact absurd isLoaded notLoaded
        | succ index =>
            rw [leftOut, List.take_succ_cons, List.countP_cons_of_neg notLoaded]
            exact inductionHypothesis restKnown declared
      · rw [comesFirst]
        cases index with
        | zero =>
            cases declared
            have sameStep : first = step := makesFirst.eq_of_relation makes isFirst
            rw [matched] at selected
            rw [sameStep, Option.some.inj selected]
            rfl
        | succ index =>
            have firstLoaded : load.loads relation = true := by
              rw [EagerLoad.loads_iff, matched, ← isFirst, makesFirst.keyed]
              exact ⟨Option.some_ne_none firstName, Option.some_ne_none first.join⟩
            rw [List.take_succ_cons, List.countP_cons_of_pos firstLoaded]
            exact inductionHypothesis restKnown declared

namespace Adapter

variable {adapter : Adapter} {mapper : Mapper} {load below : EagerLoad} {index : Nat} {step : Step}

theorem Selects.at?_plan (selects : adapter.Selects mapper load index step below)
    (known : ∀ target, adapter.plan mapper load ≠ .unknown target) :
    (adapter.plan mapper load).at? (load.position mapper index) =
      some (step, adapter.plan step.target below) := by
  rcases selects.selected with ⟨name, matched, rfl⟩
  exact Plan.at?_ofRelations known selects.declared
    ⟨selects.registered, selects.keyed, selects.ownerIdentity, selects.targetIdentity⟩ matched

/-- A relation that goes by keys is loaded for several owners with one request of its own, which
comes before all requests below the relation and asks for the truthy keys of all owners without
repeats, in the order in which they first appear.  This holds on every level that loading opens
below a call and in whatever order its tasks go on.  If nothing is logged then the task has not
run or its call was refused, and loading does not succeed. -/
theorem batched_relation_asks_once {rootMapper : Mapper} {rootLoad : EagerLoad} {batch : Batch}
    {rootOwners owners : List Document} {store : Store} {place : List Nat}
    (opened : Level.OpensAt store ⟨adapter.plan rootMapper rootLoad, batch, rootOwners⟩ place
      ⟨adapter.plan mapper load, .many, owners⟩)
    (nonempty : owners ≠ []) (selects : adapter.Selects mapper load index step below)
    (notListing : ¬ step.join.IsListing) :
    ∃ keys call, FirstAppearances (step.askedKeys owners) keys ∧
      (step.task .many owners).start = .call call .many ∧
      call.request = .fetch (step.target.collectionName none)
        [(step.relatedField, .object [("$in", .array keys)])] .none none ∧
      (∀ log last,
        (Resolution.start (adapter.plan rootMapper rootLoad) batch rootOwners).Runs store log
          last →
        (Sent.inside (place ++ [load.position mapper index]) log = [] ∧
            last.progress ≠ .succeeded) ∨
          ∃ further,
            Sent.inside (place ++ [load.position mapper index]) log =
              ⟨[], call.request⟩ :: further ∧
            ∀ sent ∈ further, sent.place ≠ []) ∧
      ∀ (pace : Pace) (session : Session), session.store = store → ∃ log,
        (Resolution.start (adapter.plan rootMapper rootLoad) batch rootOwners).Runs store log
          (.ofOutcome rootOwners
            ((adapter.resolve pace batch rootMapper rootOwners rootLoad).outcome session).1) ∧
        ((adapter.resolve pace batch rootMapper rootOwners rootLoad).outcome session).2.store.log =
          session.store.log ++ log.map Sent.request := by
  rcases Step.start_many notListing owners with ⟨keys, appearances, started⟩
  refine ⟨keys, step.keysCall keys, appearances, started, step.request_keysCall keys, ?_, ?_⟩
  · intro log last runs
    rcases opened.exists_sends (Level.sends_of_runs runs rfl) with
      ⟨levelLog, ⟨tasks, levelRuns, finished⟩, isPart⟩
    rw [Plan.enter_of_ne_nil nonempty] at levelRuns
    rw [isPart]
    by_cases known : ∀ target, adapter.plan mapper load ≠ .unknown target
    · rcases Plan.under_runs (selects.at?_plan known) levelRuns with
        ⟨silent, nothing⟩ | ⟨call, nested, belowLog, level, sameStart, _, own, belowRuns, _⟩
      · refine Or.inl ⟨silent, fun succeeded => ?_⟩
        rw [nothing (finished succeeded)] at started
        cases started
      · cases started.symm.trans sameStart
        exact Or.inr ⟨belowLog, own, belowRuns.place_ne_nil⟩
    · simp only [not_forall, not_not] at known
      rcases known with ⟨target, planned⟩
      rw [planned] at levelRuns
      rcases Tasks.runs_unknown levelRuns with ⟨rfl, unfinished⟩
      exact Or.inl ⟨rfl, fun succeeded => finished succeeded unfinished⟩
  · rintro pace session rfl
    exact adapter.runs_resolve pace session batch rootMapper rootOwners rootLoad

end Adapter

set_option maxRecDepth 100000 in
/-- The topics of the books on the shelf are asked for once, each at its first appearance. -/
theorem batched_relation_asks_once_shelf :
    ∃ log last further,
      (Resolution.start (shelf.plan shelfBook ⟨["topics"]⟩) .many shelfBooks).Runs shelfStore log
        last ∧
      last.progress = .succeeded ∧
      Sent.inside [0] log =
        ⟨[], .fetch "t" [("id", .object [("$in", .array [.string "y", .string "x"])])] .none
          none⟩ :: further ∧
      ∀ sent ∈ further, sent.place ≠ [] := by
  have selects : shelf.Selects shelfBook ⟨["topics"]⟩ 0 shelfTopics ⟨[]⟩ :=
    ⟨by cbv, ⟨"topics", by decide, by decide⟩, by cbv, by cbv, by cbv, by cbv⟩
  have notListing : ¬ shelfTopics.join.IsListing := by
    rintro ⟨foreignKeys, impossible⟩
    cases impossible
  have succeeded : (Resolution.ofOutcome shelfBooks ((shelf.resolve .direct .many shelfBook
      shelfBooks ⟨["topics"]⟩).outcome ⟨shelfStore, []⟩).1).progress = .succeeded := by cbv
  rcases Adapter.batched_relation_asks_once
      (.start : Level.OpensAt shelfStore ⟨shelf.plan shelfBook ⟨["topics"]⟩, .many, shelfBooks⟩ []
        ⟨shelf.plan shelfBook ⟨["topics"]⟩, .many, shelfBooks⟩)
      (by decide) selects notListing with ⟨keys, call, appearances, _, request, parts, calls⟩
  have asked : shelfTopics.askedKeys shelfBooks =
      [.string "y", .string "y", .string "y", .string "x"] := by cbv
  have isKeys : keys = [.string "y", .string "x"] := by
    rw [asked] at appearances
    exact appearances.unique (Value.firstAppearances_unique _)
  rcases calls .direct ⟨shelfStore, []⟩ rfl with ⟨log, runs, _⟩
  rw [request, isKeys] at parts
  rcases (parts log _ runs).resolve_left fun silent => silent.2 succeeded with
    ⟨further, own, deeper⟩
  exact ⟨log, _, further, runs, succeeded, own, deeper⟩

end RecordGraph
