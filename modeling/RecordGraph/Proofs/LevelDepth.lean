import Mathlib.Order.WellFounded
import RecordGraph.Proofs.InSequence
import RecordGraph.Proofs.InterleavingOutcome
import RecordGraph.Proofs.EagerEntries

/-!
# How deep a resolution goes

Mappers may refer to each other in circles, so that a resolution which only followed their
relations would never end.  It follows the eager-load list, of which every level uses up a
name and the dot after it: below a level whose entries have few dots, the entries have fewer.
-/

namespace RecordGraph

/-! ## Dots -/

namespace EagerLoad

def dots (entry : String) : Nat := entry.toList.count '.'

/-- The largest number of dots in an entry. -/
def mostDots (load : EagerLoad) : Nat := (load.entries.map dots).foldr max 0

theorem dots_le_mostDots {load : EagerLoad} {entry : String} (member : entry ∈ load.entries) :
    dots entry ≤ load.mostDots := by
  rcases load with ⟨entries⟩
  simp only [mostDots]
  induction entries with
  | nil => cases member
  | cons first rest inductionHypothesis =>
      rw [List.map_cons, List.foldr_cons]
      rcases List.mem_cons.mp member with rfl | inRest
      · exact Nat.le_max_left _ _
      · exact (inductionHypothesis inRest).trans (Nat.le_max_right _ _)

theorem dots_path (name rest : String) :
    dots (name ++ "." ++ rest) = dots name + dots rest + 1 := by
  simp only [dots, String.toList_append, List.count_append]
  have oneDot : ".".toList.count '.' = 1 := rfl
  omega

end EagerLoad

namespace Plan

theorem height_cons_le (step : Step) (below : Unit → Plan) (rest : Plan) :
    (cons step below rest).height ≤ max ((below ()).height + 1) rest.height := by
  cases rest with
  | done => exact Nat.le_refl _
  | unknown target => exact Nat.zero_le _
  | load _ _ _ => exact Nat.le_refl _

/-- A plan has no more levels than the entries of its list allow. -/
theorem height_ofRelations_le (catalog : Catalog) (config : Config) (mapper : Mapper)
    (load : EagerLoad) (relations : List Relation) {bound : Nat}
    (few : ∀ entry ∈ load.entries, entry ≠ "" → EagerLoad.dots entry < bound) :
    (ofRelations catalog config mapper load relations).height ≤ bound := by
  fun_induction ofRelations catalog config mapper load relations generalizing bound with
  | case1 => exact Nat.zero_le _
  | case2 mapper load relation rest unselected restHypothesis => exact restHypothesis few
  | case3 => exact Nat.zero_le _
  | case4 mapper load relation rest name selected target registered keyless restHypothesis =>
      exact restHypothesis few
  | case5 mapper load relation rest name selected target registered join joined step below
      belowHypothesis =>
      rename_i restHypothesis
      apply (height_cons_le _ _ _).trans
      apply max_le _ (restHypothesis few)
      -- The name that selects the relation leaves room for a level.
      rcases (load.contains_iff name).mp (EagerLoad.contains_of_matched? selected) with
        ⟨named, listed⟩
      have room := few name listed named
      have fewBelow : ∀ entry ∈ below.entries, entry ≠ "" →
          EagerLoad.dots entry < bound - 1 := by
        intro entry member nonempty
        have goesOn := (load.mem_descend_iff config.prunePolicy name nonempty).mp member
        have above := few _ goesOn (EagerLoad.append_dot_ne_empty name entry)
        rw [EagerLoad.dots_path] at above
        omega
      have belowHeight := belowHypothesis fewBelow
      omega

theorem height_plan_le (adapter : Adapter) (mapper : Mapper) (load : EagerLoad) :
    (adapter.plan mapper load).height ≤ load.mostDots + 1 :=
  height_ofRelations_le adapter.catalog adapter.config mapper load mapper.relations
    fun _ member _ => Nat.lt_succ_of_le (EagerLoad.dots_le_mostDots member)

end Plan

/-! ## Levels of tasks -/

theorem Sent.length_later (sent : Sent) : sent.later.place.length = sent.place.length :=
  List.length_modifyHead

namespace Tasks

variable {store : Store} {tasks next : Tasks} {sent : Option Sent}

/-- The number of levels that are open below each other. -/
def depth : Tasks → Nat
  | .nil => 0
  | .unknown _ => 0
  | .waiting _ _ rest => rest.depth
  | .entered _ _ level rest => max (level.depth + 1) rest.depth
  | .returned _ rest => rest.depth

/-- The number of levels that tasks can open below each other. -/
def reach : Tasks → Nat
  | .nil => 0
  | .unknown _ => 0
  | .waiting _ below rest => max ((below ()).height + 1) rest.reach
  | .entered _ _ level rest => max (level.reach + 1) rest.reach
  | .returned _ rest => rest.reach

theorem depth_le_reach (tasks : Tasks) : tasks.depth ≤ tasks.reach := by
  induction tasks with
  | nil => exact Nat.le_refl _
  | unknown target => exact Nat.le_refl _
  | waiting task below rest restHypothesis => exact restHypothesis.trans (Nat.le_max_right _ _)
  | entered task found level rest levelHypothesis restHypothesis =>
      simp only [depth, reach]
      omega
  | returned loaded rest restHypothesis => exact restHypothesis

theorem reach_tasks (plan : Plan) (batch : Batch) (owners : List Document) :
    (plan.tasks batch owners).reach = plan.height := by
  induction plan with
  | done => rfl
  | unknown target => rfl
  | load step below rest _ restHypothesis =>
      rw [Plan.tasks, reach, restHypothesis, Plan.height]

theorem reach_enter_le (plan : Plan) (batch : Batch) (owners : List Document) :
    (plan.enter batch owners).reach ≤ plan.height := by
  unfold Plan.enter
  split
  · exact Nat.zero_le _
  · exact (reach_tasks plan batch owners).le

/-- No step gives tasks more levels to open. -/
theorem Step.reach_le (taken : tasks.Step store sent next) : next.reach ≤ tasks.reach := by
  induction taken with
  | @call task call nested below rest started accepted =>
      have entered := reach_enter_le (below ()) nested
        (call.answer (store.records call.request.collection))
      simp only [reach]
      omega
  | skip started => exact Nat.le_max_right _ _
  | back all => exact Nat.le_max_right _ _
  | inside taken inductionHypothesis =>
      simp only [reach]
      omega
  | afterWaiting taken inductionHypothesis =>
      simp only [reach]
      omega
  | afterEntered taken inductionHypothesis =>
      simp only [reach]
      omega
  | afterReturned taken inductionHypothesis => exact inductionHypothesis

/-- A request is made for a level that its task can open. -/
theorem Step.place_le (taken : tasks.Step store sent next) :
    ∀ made ∈ sent, made.place.length ≤ tasks.reach := by
  induction taken with
  | call started accepted =>
      rintro made ⟨rfl⟩
      exact (Nat.succ_le_succ (Nat.zero_le _)).trans (Nat.le_max_left _ _)
  | skip started => exact fun made impossible => nomatch impossible
  | back all => exact fun made impossible => nomatch impossible
  | inside taken inductionHypothesis =>
      -- Seen from the level above, a place has one more position, and the tasks reach further.
      rw [Option.forall_mem_map]
      intro made member
      have held := inductionHypothesis made member
      simp only [Sent.below, List.length_cons, reach]
      omega
  | afterWaiting taken inductionHypothesis =>
      rw [Option.forall_mem_map]
      intro made member
      rw [Sent.length_later]
      exact (inductionHypothesis made member).trans (Nat.le_max_right _ _)
  | afterEntered taken inductionHypothesis =>
      rw [Option.forall_mem_map]
      intro made member
      rw [Sent.length_later]
      exact (inductionHypothesis made member).trans (Nat.le_max_right _ _)
  | afterReturned taken inductionHypothesis =>
      rw [Option.forall_mem_map]
      intro made member
      rw [Sent.length_later]
      exact inductionHypothesis made member

end Tasks

/-! ## Runs -/

namespace Resolution

variable {store : Store} {resolution first next last : Resolution} {sent : Option Sent}
  {log : List Sent}

/-- The number of levels that are open below each other, when the resolution is under way. -/
def depth (resolution : Resolution) : Nat :=
  match resolution.progress with
  | .running tasks => tasks.depth
  | .succeeded => 0
  | .failed _ => 0

/-- The number of levels that can still be opened below each other. -/
def reach (resolution : Resolution) : Nat :=
  match resolution.progress with
  | .running tasks => tasks.reach
  | .succeeded => 0
  | .failed _ => 0

theorem depth_le_reach (resolution : Resolution) : resolution.depth ≤ resolution.reach := by
  rcases resolution with ⟨owners, tasks | _ | error⟩
  · exact tasks.depth_le_reach
  · exact Nat.le_refl _
  · exact Nat.le_refl _

theorem Step.reach_le (taken : resolution.Step store sent next) :
    next.reach ≤ resolution.reach := by
  cases taken with
  | advance taken => exact taken.reach_le
  | attach all => exact Nat.zero_le _
  | abort fails => exact Nat.zero_le _

theorem Step.place_le (taken : resolution.Step store sent next) :
    ∀ made ∈ sent, made.place.length ≤ resolution.reach := by
  cases taken with
  | advance taken => exact taken.place_le
  | attach all => exact fun made impossible => nomatch impossible
  | abort fails => exact fun made impossible => nomatch impossible

theorem Runs.reach_le (runs : first.Runs store log last) :
    last.reach ≤ first.reach ∧ ∀ made ∈ log, made.place.length ≤ first.reach := by
  induction runs with
  | refl resolution => exact ⟨Nat.le_refl _, fun made member => nomatch member⟩
  | step taken _ inductionHypothesis =>
      rcases inductionHypothesis with ⟨lastReach, laterPlaces⟩
      refine ⟨lastReach.trans taken.reach_le, ?_⟩
      intro made member
      rcases List.mem_append.mp member with isFirst | isLater
      · exact taken.place_le made (Option.mem_toList.mp isFirst)
      · exact (laterPlaces made isLater).trans taken.reach_le

theorem reach_start_le (plan : Plan) (batch : Batch) (owners : List Document) :
    (start plan batch owners).reach ≤ plan.height :=
  Tasks.reach_enter_le plan batch owners

/-- No resolution goes on for ever. -/
theorem not_endless (store : Store) (trace : Nat → Resolution) :
    ∃ index, ∀ sent, ¬ (trace index).Step store sent (trace (index + 1)) := by
  by_contra goesOn
  simp only [not_exists, not_forall, not_not] at goesOn
  exact (wellFounded_iff_isEmpty_descending_chain.mp (wellFounded_step store)).false
    ⟨trace, goesOn⟩

end Resolution

/-- The list below a selected relation is smaller than the list of its level, in characters.
So every resolution ends, however the relations of the catalog lead in circles and in
whatever order its tasks go on, and the levels open below each other are at most one more
than the dots in an entry. -/
theorem Adapter.levels_le_dots (adapter : Adapter) (mapper : Mapper) (load : EagerLoad) :
    (∀ (target field name : String) (policy : PrunePolicy),
      load.matched? target field = some name →
        (load.descend policy name).size < load.size) ∧
      ∀ (session : Session) (batch : Batch) (owners : List Document),
        (∀ log resolution,
          (Resolution.start (adapter.plan mapper load) batch owners).Runs session.store log
            resolution →
          resolution.depth ≤ load.mostDots + 1 ∧
            ∀ sent ∈ log, sent.place.length ≤ load.mostDots + 1) ∧
        (∀ trace : Nat → Resolution,
          ∃ index, ∀ sent, ¬ (trace index).Step session.store sent (trace (index + 1))) ∧
        ∀ pace, ∃ log,
          (Resolution.start (adapter.plan mapper load) batch owners).Runs session.store log
            (.ofOutcome owners
              ((adapter.resolve pace batch mapper owners load).outcome session).1) ∧
          ((adapter.resolve pace batch mapper owners load).outcome session).2.store.log =
            session.store.log ++ log.map Sent.request := by
  constructor
  · intro target field name policy selected
    exact EagerLoad.size_descend_lt policy (EagerLoad.contains_of_matched? selected)
  · intro session batch owners
    refine ⟨?_, Resolution.not_endless session.store,
      fun pace => adapter.runs_resolve pace session batch mapper owners load⟩
    intro log resolution runs
    have startReach := (Resolution.reach_start_le (adapter.plan mapper load) batch owners).trans
      (Plan.height_plan_le adapter mapper load)
    rcases runs.reach_le with ⟨lastReach, places⟩
    exact ⟨resolution.depth_le_reach.trans (lastReach.trans startReach),
      fun sent member => (places sent member).trans startReach⟩

/-! ## A family -/

/-- The mapper of persons, whose parents are persons. -/
def familyPerson : Mapper :=
  ((Mapper.named "p").withTable "p").withRelation (.belongsTo "p" "up" "of")

def family : Adapter := ⟨⟨[familyPerson]⟩, .default⟩

def familyStore : Store where
  collections :=
    [("p", [[("id", .string "a"), ("of", .string "b")], [("id", .string "b"), ("of", .string "c")],
      [("id", .string "c"), ("of", .string "a")]])]
  unavailable := []
  log := []

set_option maxRecDepth 100000 in
theorem levels_le_dots_family :
    (EagerLoad.descend ⟨["up", "up.up"]⟩ .blankUnmatched "up").size <
        EagerLoad.size ⟨["up", "up.up"]⟩ ∧
      ∃ log final,
        (Resolution.start (family.plan familyPerson ⟨["up", "up.up"]⟩) .many
          (familyStore.records "p")).Runs familyStore log final ∧
        log.length = 2 ∧ ∀ sent ∈ log, sent.place.length ≤ 2 := by
  rcases family.levels_le_dots familyPerson ⟨["up", "up.up"]⟩ with ⟨smaller, bounded⟩
  rcases bounded ⟨familyStore, []⟩ .many (familyStore.records "p") with ⟨within, _, calls⟩
  rcases calls .direct with ⟨log, runs, logged⟩
  have requests : ((family.resolve .direct .many familyPerson (familyStore.records "p")
      ⟨["up", "up.up"]⟩).outcome ⟨familyStore, []⟩).2.store.log.length = 2 := by cbv
  rw [logged, List.length_append, List.length_map] at requests
  exact ⟨smaller "p" "up" "up" .blankUnmatched (by cbv), log, _, runs,
    (Nat.zero_add _).symm.trans requests, (within log _ runs).2⟩

end RecordGraph
