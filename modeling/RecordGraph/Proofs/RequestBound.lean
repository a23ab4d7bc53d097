import Mathlib
import RecordGraph.Proofs.EagerEntries
import RecordGraph.Proofs.InterleavingOutcome

/-!
# How many requests loading makes

A relation makes at most one request for all owners of a level, however many they are.  In a
catalog whose names are told apart, every request is paid for by an entry of the eager-load
list of its own: the one that spells out the relations that lead to it.
-/

namespace RecordGraph

/-! ## Names that are told apart -/

/-- The names under which a relation can be selected. -/
def Relation.names (relation : Relation) : List String := [relation.target, relation.localField]

/-- The relations of a mapper have names without dots, and share none of them. -/
structure Mapper.NamesApart (mapper : Mapper) : Prop where
  undotted : ∀ relation ∈ mapper.relations, ∀ name ∈ relation.names, '.' ∉ name.toList
  unshared : mapper.relations.Pairwise fun first second =>
    ∀ name ∈ first.names, name ∉ second.names

theorem Mapper.namesApart_iff (mapper : Mapper) :
    mapper.NamesApart ↔
      (∀ relation ∈ mapper.relations, ∀ name ∈ relation.names, '.' ∉ name.toList) ∧
        mapper.relations.Pairwise fun first second =>
          ∀ name ∈ first.names, name ∉ second.names :=
  ⟨fun apart => ⟨apart.undotted, apart.unshared⟩, fun parts => ⟨parts.1, parts.2⟩⟩

instance (mapper : Mapper) : Decidable mapper.NamesApart :=
  decidable_of_iff _ mapper.namesApart_iff.symm

/-- The names are told apart on a mapper and on all that are registered. -/
def Adapter.NamesApart (adapter : Adapter) (mapper : Mapper) : Prop :=
  ∀ owner ∈ mapper :: adapter.catalog.mappers, owner.NamesApart

namespace EagerLoad

/-! ## The entries that pay for a relation -/

/-- The non-empty entries, each of them once. -/
def distinct (load : EagerLoad) : Finset String := load.entries.toFinset.erase ""

theorem mem_distinct_iff (load : EagerLoad) (entry : String) :
    entry ∈ load.distinct ↔ entry ≠ "" ∧ entry ∈ load.entries := by
  rw [distinct, Finset.mem_erase, List.mem_toFinset]

/-- The part of an entry before its first dot. -/
def lead (entry : String) : String := String.ofList (entry.toList.takeWhile (· ≠ '.'))

theorem forall_ne_dot {name : String} (undotted : '.' ∉ name.toList) :
    ∀ char ∈ name.toList, decide (char ≠ '.') = true := by
  intro char member
  simpa using fun isDot : char = '.' => undotted (isDot ▸ member)

theorem lead_of_undotted {name : String} (undotted : '.' ∉ name.toList) : lead name = name := by
  rw [lead, List.takeWhile_eq_self_iff.mpr (forall_ne_dot undotted), String.ofList_toList]

theorem lead_path {name : String} (undotted : '.' ∉ name.toList) (rest : String) :
    lead (name ++ "." ++ rest) = name := by
  have chars : (name ++ "." ++ rest).toList = name.toList ++ '.' :: rest.toList := by simp
  rw [lead, chars, List.takeWhile_append_of_pos (forall_ne_dot undotted),
    List.takeWhile_cons_of_neg (by simp), List.append_nil, String.ofList_toList]

/-- The distinct entries that begin with one of some names. -/
def underAny (load : EagerLoad) (names : List String) : Finset String :=
  load.distinct.filter fun entry => lead entry ∈ names

theorem underAny_subset (load : EagerLoad) (names : List String) :
    load.underAny names ⊆ load.distinct :=
  Finset.filter_subset _ _

theorem underAny_mono (load : EagerLoad) {names more : List String} (subset : names ⊆ more) :
    load.underAny names ⊆ load.underAny more :=
  Finset.monotone_filter_right _ fun _ _ member => subset member

/-- No entry begins with two names, so entries that begin with different names add up. -/
theorem card_underAny_add_le (load : EagerLoad) {names others more : List String}
    (apart : ∀ name ∈ names, name ∉ others) (subset : names ⊆ more) (otherSubset : others ⊆ more) :
    (load.underAny names).card + (load.underAny others).card ≤ (load.underAny more).card := by
  have disjoint : Disjoint (load.underAny names) (load.underAny others) := by
    rw [Finset.disjoint_left]
    intro entry here there
    exact apart _ (Finset.mem_filter.mp here).2 (Finset.mem_filter.mp there).2
  rw [← Finset.card_union_of_disjoint disjoint]
  exact Finset.card_le_card
    (Finset.union_subset (load.underAny_mono subset) (load.underAny_mono otherSubset))

theorem mem_names_of_matched? {load : EagerLoad} {relation : Relation} {name : String}
    (matched : load.matched? relation.target relation.localField = some name) :
    name ∈ relation.names := by
  unfold matched? at matched
  split at matched
  · cases matched
    exact List.mem_cons_self
  · split at matched
    · cases matched
      exact List.mem_cons_of_mem _ List.mem_cons_self
    · cases matched

/-- The entry that selects a relation is not handed to the level below it, so that it pays for
the relation, and the entries of the level below come from others that begin with its name. -/
theorem card_descend_lt (load : EagerLoad) (policy : PrunePolicy) {name : String}
    (contained : load.contains name = true) (undotted : '.' ∉ name.toList) :
    (load.descend policy name).distinct.card < (load.underAny [name]).card := by
  rcases (load.contains_iff name).mp contained with ⟨nonempty, listed⟩
  have injective : Function.Injective fun rest => name ++ "." ++ rest := by
    intro first second same
    have chars := congrArg String.toList same
    simpa [String.toList_inj] using chars
  have notPath : name ∉
      (load.descend policy name).distinct.image fun rest => name ++ "." ++ rest := by
    rw [Finset.mem_image]
    rintro ⟨rest, _, same⟩
    exact ne_path name rest same
  have included : insert name ((load.descend policy name).distinct.image
      fun rest => name ++ "." ++ rest) ⊆ load.underAny [name] := by
    intro entry member
    rw [underAny, Finset.mem_filter, mem_distinct_iff, List.mem_singleton]
    rcases Finset.mem_insert.mp member with rfl | isPath
    · exact ⟨⟨nonempty, listed⟩, lead_of_undotted undotted⟩
    · rcases Finset.mem_image.mp isPath with ⟨rest, below, rfl⟩
      rcases (mem_distinct_iff _ rest).mp below with ⟨restNonempty, restListed⟩
      exact ⟨⟨append_dot_ne_empty name rest,
        (load.mem_descend_iff policy name restNonempty).mp restListed⟩, lead_path undotted rest⟩
  have counted := Finset.card_le_card included
  rw [Finset.card_insert_of_notMem notPath, Finset.card_image_of_injective _ injective] at counted
  exact counted

end EagerLoad

/-! ## Plans -/

namespace Plan

/-- How many relations a plan loads, on all of its levels. -/
def calls : Plan → Nat
  | .done => 0
  | .unknown _ => 0
  | .load _ below rest => (below ()).calls + 1 + rest.calls

theorem calls_cons_le (step : Step) (below : Unit → Plan) (rest : Plan) :
    (cons step below rest).calls ≤ (below ()).calls + 1 + rest.calls := by
  cases rest with
  | unknown target => exact Nat.zero_le _
  | _ => exact le_rfl

/-- Every relation in a plan is paid for by an entry that begins with a name of one of the
relations that the plan is made for. -/
theorem calls_ofRelations_le {adapter : Adapter}
    (apart : ∀ owner ∈ adapter.catalog.mappers, owner.NamesApart) (mapper : Mapper)
    (load : EagerLoad) {relations : List Relation}
    (undotted : ∀ relation ∈ relations, ∀ name ∈ relation.names, '.' ∉ name.toList)
    (unshared : relations.Pairwise fun first second =>
      ∀ name ∈ first.names, name ∉ second.names) :
    (ofRelations adapter.catalog adapter.config mapper load relations).calls ≤
      (load.underAny (relations.flatMap Relation.names)).card := by
  have restNames : ∀ (relation : Relation) (rest : List Relation),
      rest.flatMap Relation.names ⊆ (relation :: rest).flatMap Relation.names := by
    intro relation rest
    rw [List.flatMap_cons]
    exact List.subset_append_right _ _
  have skipped : ∀ (load : EagerLoad) (relation : Relation) (rest : List Relation),
      (load.underAny (rest.flatMap Relation.names)).card ≤
        (load.underAny ((relation :: rest).flatMap Relation.names)).card :=
    fun load relation rest => Finset.card_le_card (load.underAny_mono (restNames relation rest))
  fun_induction ofRelations adapter.catalog adapter.config mapper load relations with
  | case1 => exact Nat.zero_le _
  | case2 mapper load relation rest unselected restHypothesis =>
      rcases List.forall_mem_cons.mp undotted with ⟨_, restUndotted⟩
      exact (restHypothesis restUndotted unshared.of_cons).trans (skipped load relation rest)
  | case3 mapper load relation rest name selected unregistered => exact Nat.zero_le _
  | case4 mapper load relation rest name selected target registered keyless restHypothesis =>
      rcases List.forall_mem_cons.mp undotted with ⟨_, restUndotted⟩
      exact (restHypothesis restUndotted unshared.of_cons).trans (skipped load relation rest)
  | case5 mapper load relation rest name selected target registered join joined step below
      belowHypothesis =>
      rename_i restHypothesis
      rcases List.forall_mem_cons.mp undotted with ⟨firstUndotted, restUndotted⟩
      rcases List.pairwise_cons.mp unshared with ⟨firstUnshared, restUnshared⟩
      -- The entry that selects the relation pays for it, and those that go on from its name pay
      -- for the level below; none of them begins with a name of another relation.
      have isName := EagerLoad.mem_names_of_matched? selected
      have targetApart := apart target (List.mem_of_find?_eq_some registered)
      have belowBound := (belowHypothesis targetApart.undotted targetApart.unshared).trans
        (Finset.card_le_card (below.underAny_subset _))
      have paid : below.distinct.card < (load.underAny [name]).card :=
        load.card_descend_lt adapter.config.prunePolicy
          (EagerLoad.contains_of_matched? selected) (firstUndotted name isName)
      have restBound := restHypothesis restUndotted restUnshared
      have apartFromRest : ∀ chosen ∈ [name], chosen ∉ rest.flatMap Relation.names := by
        intro chosen member inRest
        rcases List.mem_flatMap.mp inRest with ⟨other, isOther, shared⟩
        rw [List.mem_singleton.mp member] at shared
        exact firstUnshared other isOther name isName shared
      have inNames : name ∈ (relation :: rest).flatMap Relation.names :=
        List.mem_flatMap.mpr ⟨relation, List.mem_cons_self, isName⟩
      have together := load.card_underAny_add_le apartFromRest
        (List.cons_subset.mpr ⟨inNames, List.nil_subset _⟩) (restNames relation rest)
      have consBound := calls_cons_le step
        (fun _ => ofRelations adapter.catalog adapter.config target below target.relations)
        (ofRelations adapter.catalog adapter.config mapper load rest)
      omega

theorem calls_plan_le {adapter : Adapter} {mapper : Mapper} (apart : adapter.NamesApart mapper)
    (load : EagerLoad) : (adapter.plan mapper load).calls ≤ load.distinct.card := by
  rcases List.forall_mem_cons.mp apart with ⟨here, registered⟩
  exact (calls_ofRelations_le registered mapper load here.undotted here.unshared).trans
    (Finset.card_le_card (load.underAny_subset _))

end Plan

/-! ## Loading in sequence -/

namespace Transcript

variable {α β : Type}

/-- A transcript has no more than a number of requests, counting also one that the store
refuses, which it does not log. -/
structure AtMost (limit : Nat) (transcript : Transcript α) : Prop where
  answered : transcript.requests.length ≤ limit
  refused : ∀ collection, transcript.outcome = .error (.unavailable collection) →
    transcript.requests.length < limit

theorem atMost_ok (limit : Nat) (result : α) : (ok result).AtMost limit :=
  ⟨Nat.zero_le limit, by rintro collection ⟨⟩⟩

theorem atMost_fail (limit : Nat) {error : AccessError}
    (accepted : ∀ collection, error ≠ .unavailable collection) :
    (fail error : Transcript α).AtMost limit := by
  refine ⟨Nat.zero_le limit, ?_⟩
  intro collection fails
  exact absurd (Except.error.inj fails) (accepted collection)

theorem atMost_andThen {earlier : Transcript α} {later : α → Transcript β} {first second : Nat}
    (earlierBound : earlier.AtMost first) (laterBound : ∀ result, (later result).AtMost second) :
    (earlier.andThen later).AtMost (first + second) := by
  unfold andThen
  cases ends : earlier.outcome with
  | error error =>
      refine ⟨Nat.le_add_right_of_le earlierBound.answered, ?_⟩
      intro collection fails
      cases fails
      exact Nat.lt_add_right second (earlierBound.refused collection ends)
  | ok result =>
      refine ⟨?_, ?_⟩
      · rw [List.length_append]
        exact Nat.add_le_add earlierBound.answered (laterBound result).answered
      · intro collection fails
        rw [List.length_append]
        exact Nat.add_lt_add_of_le_of_lt earlierBound.answered
          ((laterBound result).refused collection fails)

end Transcript

theorem Store.atMost_reply {Answer : Type} (store : Store) (call : Call Answer) :
    (store.reply call).AtMost 1 := by
  unfold reply
  split
  · exact ⟨Nat.zero_le 1, fun _ _ => Nat.zero_lt_one⟩
  · exact ⟨le_rfl, by rintro collection ⟨⟩⟩

theorem Task.atMost_related (task : Task) (store : Store)
    {below : Batch → List Document → Transcript (List Document)} {limit : Nat}
    (belowBound : ∀ nested found, (below nested found).AtMost limit) :
    (task.related store below).AtMost (limit + 1) := by
  unfold related
  cases started : task.start with
  | nothing => exact Transcript.atMost_ok _ _
  | failure error =>
      rcases unsupported_of_start started with ⟨target, foreignKeys, owners, rfl⟩
      apply Transcript.atMost_fail
      rintro collection ⟨⟩
  | call call nested =>
      rw [Nat.add_comm]
      exact Transcript.atMost_andThen (store.atMost_reply call) (belowBound nested)

namespace Plan

theorem atMost_attached (owners : List Document) {gathering : Transcript (List Loaded)}
    {limit : Nat} (bound : gathering.AtMost limit) : (attached owners gathering).AtMost limit := by
  unfold attached
  split
  · exact Transcript.atMost_ok limit owners
  · exact Transcript.atMost_andThen bound fun loaded => Transcript.atMost_ok 0 _

/-- Loading in sequence makes no more requests than the plan has relations. -/
theorem atMost_gathered (plan : Plan) (store : Store) (batch : Batch) (owners : List Document) :
    (plan.gathered store batch owners).AtMost plan.calls := by
  induction plan generalizing batch owners with
  | done => exact Transcript.atMost_ok 0 []
  | unknown target =>
      apply Transcript.atMost_fail
      rintro collection ⟨⟩
  | load step below rest belowHypothesis restHypothesis =>
      apply Transcript.atMost_andThen
      · apply Task.atMost_related
        intro nested found
        exact atMost_attached found (belowHypothesis () nested found)
      · intro related
        exact Transcript.atMost_andThen (restHypothesis batch owners) fun later =>
          Transcript.atMost_ok 0 _

theorem atMost_resolved (plan : Plan) (store : Store) (batch : Batch) (owners : List Document) :
    (plan.resolved store batch owners).AtMost plan.calls :=
  atMost_attached owners (plan.atMost_gathered store batch owners)

end Plan

/-! ## Loading side by side -/

namespace Tasks

/-- How many requests tasks under way can still make. -/
def calls : Tasks → Nat
  | .nil => 0
  | .unknown _ => 0
  | .waiting _ below rest => (below ()).calls + 1 + rest.calls
  | .entered _ _ level rest => level.calls + rest.calls
  | .returned _ rest => rest.calls

theorem calls_tasks (plan : Plan) (batch : Batch) (owners : List Document) :
    (plan.tasks batch owners).calls = plan.calls := by
  induction plan with
  | done => rfl
  | unknown target => rfl
  | load step below rest _ restHypothesis =>
      simp only [Plan.tasks, calls, Plan.calls, restHypothesis]

theorem calls_enter_le (plan : Plan) (batch : Batch) (owners : List Document) :
    (plan.enter batch owners).calls ≤ plan.calls := by
  unfold Plan.enter
  split
  · exact Nat.zero_le _
  · exact (calls_tasks plan batch owners).le

/-- A step that sends a request leaves one fewer to be made. -/
theorem Step.calls_le {store : Store} {tasks next : Tasks} {sent : Option Sent}
    (taken : tasks.Step store sent next) : sent.toList.length + next.calls ≤ tasks.calls := by
  induction taken with
  | @call task call nested below rest _ _ =>
      have entered := calls_enter_le (below ()) nested
        (call.answer (store.records call.request.collection))
      simp only [calls, Option.toList_some, List.length_singleton]
      omega
  | skip => simp only [calls, Option.toList_none, List.length_nil]; omega
  | back => simp only [calls, Option.toList_none, List.length_nil]; omega
  | inside _ inductionHypothesis =>
      simp only [calls, Option.length_toList, Option.isSome_map] at inductionHypothesis ⊢
      omega
  | afterWaiting _ inductionHypothesis =>
      simp only [calls, Option.length_toList, Option.isSome_map] at inductionHypothesis ⊢
      omega
  | afterEntered _ inductionHypothesis =>
      simp only [calls, Option.length_toList, Option.isSome_map] at inductionHypothesis ⊢
      omega
  | afterReturned _ inductionHypothesis =>
      simp only [calls, Option.length_toList, Option.isSome_map] at inductionHypothesis ⊢
      omega

theorem Fails.calls_pos {store : Store} {tasks : Tasks} {error : AccessError}
    (fails : tasks.Fails store error) {collection : String}
    (refused : error = .unavailable collection) : 0 < tasks.calls := by
  induction fails with
  | unknown target => cases refused
  | refused => simp only [calls]; omega
  | unavailable => simp only [calls]; omega
  | inside _ inductionHypothesis => exact Nat.add_pos_left (inductionHypothesis refused) _
  | afterWaiting => simp only [calls]; omega
  | afterEntered _ inductionHypothesis => exact Nat.add_pos_right _ (inductionHypothesis refused)
  | afterReturned _ inductionHypothesis => exact inductionHypothesis refused

end Tasks

namespace Resolution

/-- How many requests a resolution can still make; one that ended where a collection is
unavailable has not made the one that was refused. -/
def calls (resolution : Resolution) : Nat :=
  match resolution.progress with
  | .running tasks => tasks.calls
  | .failed (.unavailable _) => 1
  | _ => 0

theorem Step.calls_le {store : Store} {first second : Resolution} {sent : Option Sent}
    (taken : first.Step store sent second) :
    sent.toList.length + second.calls ≤ first.calls := by
  cases taken with
  | advance taken => exact taken.calls_le
  | attach _ => exact Nat.zero_le _
  | @abort _ tasks error fails =>
      cases error with
      | unavailable collection => exact fails.calls_pos rfl
      | _ => exact Nat.zero_le _

/-- The requests of a run and those that can still be made after it are no more than could be
made before it. -/
theorem Runs.calls_le {store : Store} {first last : Resolution} {log : List Sent}
    (runs : first.Runs store log last) : log.length + last.calls ≤ first.calls := by
  induction runs with
  | refl => simp
  | step taken _ inductionHypothesis =>
      have stepBound := taken.calls_le
      rw [List.length_append]
      omega

end Resolution

/-! ## The bound -/

/-- New requests are no more than a number, and fewer if another one was refused. -/
def Session.AsksAtMost {α : Type} (before after : Session) (outcome : Except AccessError α)
    (limit : Nat) : Prop :=
  ∃ requests, after.store.log = before.store.log ++ requests ∧ requests.length ≤ limit ∧
    ∀ collection, outcome = .error (.unavailable collection) → requests.length < limit

theorem Adapter.asksAtMost_resolve (adapter : Adapter) (pace : Pace) (session : Session)
    (batch : Batch) (mapper : Mapper) (owners : List Document) (load : EagerLoad) :
    session.AsksAtMost
      ((adapter.resolve pace batch mapper owners load).outcome session).2
      ((adapter.resolve pace batch mapper owners load).outcome session).1
      (adapter.plan mapper load).calls := by
  cases pace with
  | direct =>
      have followed := adapter.follows_resolve session.store batch mapper owners load session
        ⟨rfl, rfl⟩
      have bound := (adapter.plan mapper load).atMost_resolved session.store batch owners
      rw [followed]
      exact ⟨_, rfl, bound.answered, bound.refused⟩
  | interleaved =>
      rcases adapter.runs_resolve_interleaved session batch mapper owners load with
        ⟨log, runs, logged⟩
      have entered := Tasks.calls_enter_le (adapter.plan mapper load) batch owners
      have bound := runs.calls_le.trans entered
      refine ⟨_, logged, ?_, ?_⟩
      · rw [List.length_map]
        omega
      · intro collection refused
        rw [refused] at bound
        rw [List.length_map]
        exact bound

theorem Session.AsksAtMost.mono {α : Type} {before after : Session}
    {outcome : Except AccessError α} {limit more : Nat}
    (asks : before.AsksAtMost after outcome limit) (le : limit ≤ more) :
    before.AsksAtMost after outcome more := by
  rcases asks with ⟨requests, logged, answered, refused⟩
  exact ⟨requests, logged, answered.trans le,
    fun collection fails => (refused collection fails).trans_le le⟩

theorem Adapter.asksAtMost_resolveOne (adapter : Adapter) (pace : Pace) (session : Session)
    (mapper : Mapper) (owner : Document) (load : EagerLoad) :
    session.AsksAtMost ((adapter.resolveOne pace mapper owner load).outcome session).2
      ((adapter.resolveOne pace mapper owner load).outcome session).1
      (adapter.plan mapper load).calls := by
  have asks := adapter.asksAtMost_resolve pace session .single mapper [owner] load
  rw [resolveOne, Access.outcome_bind]
  rcases ran : (adapter.resolve pace .single mapper [owner] load).outcome session with
    ⟨outcome, after⟩
  rw [ran] at asks
  cases outcome with
  | error error =>
      rcases asks with ⟨requests, logged, answered, refused⟩
      refine ⟨requests, logged, answered, ?_⟩
      rintro collection ⟨⟩
      exact refused collection rfl
  | ok resolved =>
      rcases asks with ⟨requests, logged, answered, _⟩
      exact ⟨requests, logged, answered, by rintro collection ⟨⟩⟩

/-- In a catalog whose names are told apart, resolving makes no more requests on all levels
together than the list has distinct entries that are not empty, whatever is stored and for any
number of owners. -/
theorem Adapter.requests_le_entries {adapter : Adapter} {mapper : Mapper}
    (apart : adapter.NamesApart mapper) (pace : Pace) (session : Session) (load : EagerLoad) :
    (∀ owners : List Document, session.AsksAtMost
      ((adapter.resolveMany pace mapper owners load).outcome session).2
      ((adapter.resolveMany pace mapper owners load).outcome session).1 load.distinct.card) ∧
    ∀ owner : Document, session.AsksAtMost
      ((adapter.resolveOne pace mapper owner load).outcome session).2
      ((adapter.resolveOne pace mapper owner load).outcome session).1 load.distinct.card := by
  have bound := Plan.calls_plan_le apart load
  constructor
  · intro owners
    exact (adapter.asksAtMost_resolve pace session .many mapper owners load).mono bound
  · intro owner
    exact (adapter.asksAtMost_resolveOne pace session mapper owner load).mono bound

theorem requests_le_entries_magazine :
    magazine.NamesApart magazineWriter ∧
      (EagerLoad.distinct ⟨["as", "as.ns", "", "at", "as"]⟩).card = 3 ∧
      Session.AsksAtMost ⟨magazineStore, []⟩
        ((magazine.resolveMany .interleaved magazineWriter (magazineStore.records "w")
          ⟨["as", "as.ns", "", "at", "as"]⟩).outcome ⟨magazineStore, []⟩).2
        ((magazine.resolveMany .interleaved magazineWriter (magazineStore.records "w")
          ⟨["as", "as.ns", "", "at", "as"]⟩).outcome ⟨magazineStore, []⟩).1 3 := by
  have apart : magazine.NamesApart magazineWriter := by
    unfold Adapter.NamesApart
    decide
  have entries : (EagerLoad.distinct ⟨["as", "as.ns", "", "at", "as"]⟩).card = 3 := by decide
  have bound := (Adapter.requests_le_entries apart .interleaved ⟨magazineStore, []⟩
    ⟨["as", "as.ns", "", "at", "as"]⟩).1 (magazineStore.records "w")
  rw [entries] at bound
  exact ⟨apart, entries, bound⟩

end RecordGraph
