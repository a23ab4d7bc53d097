import RecordGraph.Proofs.InSequence
import RecordGraph.Proofs.LoadFailures
import RecordGraph.Proofs.ReadOnly

/-!
# Unregistered targets

A catalog that nobody has checked can have relations with unregistered targets.  As soon as
such a relation is selected its level cannot be loaded at all: the first of them is reported
before any of the other relations has made a request, whatever would have become of these.
-/

namespace RecordGraph

/-! ## Relations that miss their target -/

namespace Adapter

variable {adapter : Adapter} {load : EagerLoad}

/-- A list selects a relation whose target is not registered. -/
def Misses (adapter : Adapter) (load : EagerLoad) (relation : Relation) : Prop :=
  load.matched? relation.target relation.localField ≠ none ∧
    adapter.catalog.get? relation.target = none

instance (adapter : Adapter) (load : EagerLoad) (relation : Relation) :
    Decidable (adapter.Misses load relation) :=
  inferInstanceAs (Decidable (_ ∧ _))

/-- The first of some relations, in the order of their declaration, that misses its target. -/
def FirstMissed (adapter : Adapter) (load : EagerLoad) (relations : List Relation)
    (first : Relation) : Prop :=
  adapter.Misses load first ∧ ∃ before after, relations = before ++ first :: after ∧
    ∀ earlier ∈ before, ¬ adapter.Misses load earlier

theorem firstMissed_iff_find? {relations : List Relation} {first : Relation} :
    adapter.FirstMissed load relations first ↔
      relations.find? (fun relation => decide (adapter.Misses load relation)) = some first := by
  simp only [FirstMissed, List.find?_eq_some_iff_append, decide_eq_true_eq, Bool.not_eq_true',
    decide_eq_false_iff_not]

theorem exists_firstMissed_iff {relations : List Relation} :
    (∃ first, adapter.FirstMissed load relations first) ↔
      ∃ relation ∈ relations, adapter.Misses load relation := by
  simp only [firstMissed_iff_find?, ← Option.isSome_iff_exists, List.find?_isSome,
    decide_eq_true_eq]

theorem FirstMissed.here {relation : Relation} (missed : adapter.Misses load relation)
    (rest : List Relation) : adapter.FirstMissed load (relation :: rest) relation :=
  ⟨missed, [], rest, rfl, fun _ impossible => nomatch impossible⟩

theorem firstMissed_cons_iff {relation : Relation} (found : ¬ adapter.Misses load relation)
    {rest : List Relation} {first : Relation} :
    adapter.FirstMissed load (relation :: rest) first ↔ adapter.FirstMissed load rest first := by
  rw [firstMissed_iff_find?, firstMissed_iff_find?, List.find?_cons_of_neg]
  rwa [decide_eq_true_eq]

theorem FirstMissed.unique {relations : List Relation} {first other : Relation}
    (missed : adapter.FirstMissed load relations first)
    (otherMissed : adapter.FirstMissed load relations other) : other = first := by
  rw [firstMissed_iff_find?] at missed otherMissed
  exact Option.some.inj (otherMissed.symm.trans missed)

end Adapter

namespace Plan

theorem cons_eq_unknown_iff (step : Step) (below : Unit → Plan) (rest : Plan) (target : String) :
    cons step below rest = .unknown target ↔ rest = .unknown target := by
  cases rest with
  | done => simp [cons]
  | unknown other => exact Iff.rfl
  | load _ _ _ => simp [cons]

/-- A plan ends in an unregistered target if and only if a relation misses its target, and
then it is that of the first one. -/
theorem ofRelations_eq_unknown_iff (adapter : Adapter) (mapper : Mapper) (load : EagerLoad)
    (relations : List Relation) (target : String) :
    ofRelations adapter.catalog adapter.config mapper load relations = .unknown target ↔
      ∃ first, adapter.FirstMissed load relations first ∧ first.target = target := by
  induction relations with
  | nil =>
      rw [ofRelations]
      simp [Adapter.FirstMissed]
  | cons relation rest inductionHypothesis =>
      by_cases missed : adapter.Misses load relation
      · rcases Option.ne_none_iff_exists'.mp missed.1 with ⟨name, selected⟩
        rw [ofRelations_cons, selected, missed.2]
        have first := Adapter.FirstMissed.here missed rest
        constructor
        · intro planned
          cases planned
          exact ⟨relation, first, rfl⟩
        · intro missing
          rcases missing with ⟨other, otherFirst, rfl⟩
          rw [first.unique otherFirst]
      · simp only [Adapter.firstMissed_cons_iff missed, ← inductionHypothesis]
        rw [ofRelations_cons]
        cases selected : load.matched? relation.target relation.localField with
        | none => exact Iff.rfl
        | some name =>
            cases registered : adapter.catalog.get? relation.target with
            | none => exact absurd ⟨by simp [selected], registered⟩ missed
            | some targetMapper =>
                cases relation.join? with
                | none => exact Iff.rfl
                | some join => exact cons_eq_unknown_iff _ _ _ target

variable {pace : Pace} {batch : Batch} {owners : List Document} {session : Session}

theorem loading_unknown (target : String) (pace : Pace) (batch : Batch)
    (owners : List Document) (session : Session) :
    ((unknown target).loading pace batch owners).outcome session =
      (.error (.unknownMapper target), session) := by
  cases pace with
  | direct => rfl
  | interleaved =>
      have fails : Process.join (processes session.store batch owners (.unknown target)) =
          .done [] (.error (.unknownMapper target)) := by
        simp [processes, Process.join, Process.roundLimit, Process.inRounds, Process.round]
      show (Process.join _).complete session = _
      rw [fails]
      rfl

/-- A level with an unregistered target fails, and nothing else happens. -/
theorem outcome_update_unknown (target : String) (nonempty : owners ≠ []) :
    ((unknown target).update pace batch).outcome owners session =
      (.error (.unknownMapper target), owners, session) := by
  rw [outcome_update, if_neg (by simpa using nonempty), loading_unknown]

end Plan

/-! ## Runs without requests -/

/-- No target is unregistered, and no level is open below the tasks. -/
def Tasks.Untouched : Tasks → Prop
  | .nil => True
  | .unknown _ => False
  | .waiting _ _ rest => rest.Untouched
  | .entered _ _ _ _ => False
  | .returned _ rest => rest.Untouched

theorem Plan.untouched_tasks {plan : Plan} (proper : plan.Proper)
    (known : ∀ target, plan ≠ .unknown target) (batch : Batch) (owners : List Document) :
    (plan.tasks batch owners).Untouched := by
  induction plan with
  | done => trivial
  | unknown target => exact known target rfl
  | load step below rest _ restHypothesis =>
      rcases proper with ⟨_, restProper, restKnown⟩
      exact restHypothesis restProper restKnown

namespace Tasks

variable {store : Store} {tasks next : Tasks}

/-- The first thing that happens below a task is the answer to its request. -/
theorem Step.untouched {sent : Option Sent} (taken : tasks.Step store sent next)
    (silent : sent = none) (untouched : tasks.Untouched) : next.Untouched := by
  induction taken with
  | call _ _ => cases silent
  | skip _ => exact untouched
  | back _ => cases untouched
  | inside _ _ => cases untouched
  | afterWaiting _ inductionHypothesis =>
      exact inductionHypothesis (Option.map_eq_none_iff.mp silent) untouched
  | afterEntered _ _ => cases untouched
  | afterReturned _ inductionHypothesis =>
      exact inductionHypothesis (Option.map_eq_none_iff.mp silent) untouched

theorem Fails.not_unknownMapper {error : AccessError} (fails : tasks.Fails store error)
    (untouched : tasks.Untouched) (target : String) : error ≠ .unknownMapper target := by
  induction fails with
  | unknown _ => cases untouched
  | refused started =>
      rcases Task.unsupported_of_start started with ⟨_, _, _, rfl⟩
      exact AccessError.noConfusion
  | unavailable _ _ => exact AccessError.noConfusion
  | inside _ _ => cases untouched
  | afterWaiting _ inductionHypothesis => exact inductionHypothesis untouched
  | afterEntered _ _ => cases untouched
  | afterReturned _ inductionHypothesis => exact inductionHypothesis untouched

end Tasks

namespace Resolution

/-- As long as no request is made, no target below is looked up. -/
theorem Runs.not_unknownMapper {store : Store} {first last : Resolution} {log : List Sent}
    (runs : first.Runs store log last) (silent : log = [])
    (untouched : ∀ tasks, first.progress = .running tasks → tasks.Untouched)
    (started : ∀ error, first.progress ≠ .failed error) (target : String) :
    last.progress ≠ .failed (.unknownMapper target) := by
  induction runs with
  | refl resolution => exact started _
  | @step _ _ _ sent _ taken runs inductionHypothesis =>
      rcases List.append_eq_nil_iff.mp silent with ⟨noRequest, restSilent⟩
      have isNone : sent = none := by simpa using noRequest
      cases taken with
      | advance taken =>
          apply inductionHypothesis restSilent
          · intro tasks isRunning
            cases isRunning
            exact taken.untouched isNone (untouched _ rfl)
          · exact fun _ => Progress.noConfusion
      | attach _ =>
          exact inductionHypothesis restSilent (fun _ => Progress.noConfusion)
            fun _ => Progress.noConfusion
      | abort fails =>
          have expected := fails.not_unknownMapper (untouched _ rfl) target
          cases runs with
          | refl _ =>
              intro failed
              cases failed
              exact expected rfl
          | step impossible _ => cases impossible

end Resolution

/-! ## Failing at once -/

namespace Adapter

variable {adapter : Adapter} {pace : Pace} {batch : Batch} {mapper : Mapper}
  {owners : List Document} {load : EagerLoad} {session : Session} {target : String}

theorem outcome_update_eq_error_iff {error : AccessError} {after : Session} :
    (adapter.update pace batch mapper load).outcome owners session = (.error error, owners, after) ↔
      (adapter.resolve pace batch mapper owners load).outcome session = (.error error, after) := by
  rw [← adapter.onto_update]
  show _ ↔ Update.onto owners (adapter.update pace batch mapper load) session = _
  unfold Update.onto
  rcases ended : (adapter.update pace batch mapper load).outcome owners session with
    ⟨failure | done, changed, last⟩
  · have kept := Plan.owners_eq_of_update_fails (congrArg Prod.fst ended)
    have unchanged : changed = owners := (congrArg (·.2.1) ended).symm.trans kept
    rw [unchanged]
    constructor <;> intro failed <;> cases failed <;> rfl
  · constructor <;> intro impossible <;> cases impossible

theorem outcome_resolveOne_eq_error_iff {owner : Document} {error : AccessError}
    {after : Session} :
    (adapter.resolveOne pace mapper owner load).outcome session = (.error error, after) ↔
      (adapter.resolve pace .single mapper [owner] load).outcome session =
        (.error error, after) := by
  rw [resolveOne, Access.outcome_bind]
  rcases (adapter.resolve pace .single mapper [owner] load).outcome session with
    ⟨failure | resolved, last⟩
  · constructor <;> intro failed <;> cases failed <;> rfl
  · constructor <;> intro impossible <;> cases impossible

theorem outcome_resolve_of_unknown (nonempty : owners ≠ [])
    (planned : adapter.plan mapper load = .unknown target) :
    (adapter.resolve pace batch mapper owners load).outcome session =
      (.error (.unknownMapper target), session) := by
  rw [← outcome_update_eq_error_iff]
  show ((adapter.plan mapper load).update pace batch).outcome owners session = _
  rw [planned]
  exact Plan.outcome_update_unknown target nonempty

/-- With all its own targets at hand, a level makes a request before anything fails for a
target. -/
theorem outcome_resolve_of_known (nonempty : owners ≠ [])
    (known : ∀ other, adapter.plan mapper load ≠ .unknown other) :
    (adapter.resolve pace batch mapper owners load).outcome session ≠
      (.error (.unknownMapper target), session) := by
  intro failed
  rcases adapter.runs_resolve pace session batch mapper owners load with ⟨log, runs, logged⟩
  rw [failed] at runs logged
  have silent : log = [] := by simpa using logged
  have proper : (adapter.plan mapper load).Proper :=
    Plan.proper_ofRelations adapter.catalog adapter.config mapper load mapper.relations
  have untouched : ((adapter.plan mapper load).enter batch owners).Untouched := by
    rw [Plan.enter_of_ne_nil nonempty]
    exact Plan.untouched_tasks proper known batch owners
  apply runs.not_unknownMapper silent _ (fun _ => Progress.noConfusion) target rfl
  intro tasks isRunning
  cases isRunning
  exact untouched

/-- A level fails for an unregistered target and without any request if and only if one of its
relations misses that target first. -/
theorem outcome_resolve_eq_unknown_iff (nonempty : owners ≠ []) :
    (adapter.resolve pace batch mapper owners load).outcome session =
        (.error (.unknownMapper target), session) ↔
      ∃ first, adapter.FirstMissed load mapper.relations first ∧ first.target = target := by
  rw [← Plan.ofRelations_eq_unknown_iff adapter mapper]
  constructor
  · intro failed
    by_cases planned : ∃ other, adapter.plan mapper load = .unknown other
    · rcases planned with ⟨other, planned⟩
      rw [outcome_resolve_of_unknown nonempty planned] at failed
      cases failed
      exact planned
    · exact absurd failed (outcome_resolve_of_known nonempty (not_exists.mp planned))
  · exact outcome_resolve_of_unknown nonempty

/-- When a list selects relations with unregistered targets, loading onto a record or onto any
records fails for the first of them and does nothing else: there is no request, not even the
start of one, and the records are as they were, no matter how the other relations fare.  That
nothing else happened tells this failure from those of the levels below. -/
theorem unknown_target_reported_first (adapter : Adapter) (mapper : Mapper) (load : EagerLoad) :
    ((∃ relation ∈ mapper.relations, adapter.Misses load relation) →
      ∃ first, adapter.FirstMissed load mapper.relations first ∧
        ∀ (pace : Pace) (session : Session),
          (∀ owners, owners ≠ [] →
            (adapter.resolveMany pace mapper owners load).outcome session =
              (.error (.unknownMapper first.target), session)) ∧
          (∀ owner,
            (adapter.resolveOne pace mapper owner load).outcome session =
              (.error (.unknownMapper first.target), session)) ∧
          ∀ batch owners, owners ≠ [] →
            (adapter.update pace batch mapper load).outcome owners session =
              (.error (.unknownMapper first.target), owners, session)) ∧
      ∀ (pace : Pace) (session : Session) (batch : Batch) (owners : List Document)
        (target : String), owners ≠ [] →
        (adapter.resolve pace batch mapper owners load).outcome session =
          (.error (.unknownMapper target), session) →
        ∃ first, adapter.FirstMissed load mapper.relations first ∧ first.target = target := by
  constructor
  · intro missed
    rcases exists_firstMissed_iff.mpr missed with ⟨first, firstMissed⟩
    have fails : ∀ {pace : Pace} {batch : Batch} {owners : List Document} {session : Session},
        owners ≠ [] → (adapter.resolve pace batch mapper owners load).outcome session =
          (.error (.unknownMapper first.target), session) :=
      fun nonempty => (outcome_resolve_eq_unknown_iff nonempty).mpr ⟨first, firstMissed, rfl⟩
    refine ⟨first, firstMissed, fun pace session => ⟨?_, ?_, ?_⟩⟩
    · exact fun owners nonempty => fails nonempty
    · exact fun owner => outcome_resolveOne_eq_error_iff.mpr (fails (List.cons_ne_nil owner []))
    · exact fun batch owners nonempty => outcome_update_eq_error_iff.mpr (fails nonempty)
  · intro pace session batch owners target nonempty failed
    exact (outcome_resolve_eq_unknown_iff nonempty).mp failed

end Adapter

/-! ## A haunted house -/

/-- The mapper of houses.  Their rooms cannot be read, guests list several houses, a tower has
no key, and neither ghosts nor ghouls are registered. -/
def hauntedHouse : Mapper where
  name := "h"
  idAttribute := none
  table := some "h"
  collection := none
  relations :=
    [.hasMany "r" "rooms" "of", .hasManyListing "r" "guests" "hs", .keyless .hasOne "r" "tower",
      .belongsTo "ghost" "white" "of", .belongsTo "ghoul" "grey" "of"]

def haunted : Adapter := ⟨⟨[hauntedHouse, (Mapper.named "r").withTable "r"]⟩, .default⟩

def hauntedStore : Store where
  collections := [("h", [[("id", .string "a")], [("id", .string "b")]])]
  unavailable := ["r"]
  log := []

theorem unknown_target_reported_first_haunted :
    ∃ first,
      haunted.FirstMissed ⟨["rooms", "guests", "tower", "grey", "white"]⟩ hauntedHouse.relations
        first ∧ first.target = "ghost" ∧
      hauntedStore.records "h" ≠ [] ∧
      (haunted.resolveMany .interleaved hauntedHouse (hauntedStore.records "h")
          ⟨["rooms", "guests", "tower", "grey", "white"]⟩).outcome ⟨hauntedStore, []⟩ =
        (.error (.unknownMapper first.target), ⟨hauntedStore, []⟩) := by
  have nonempty : hauntedStore.records "h" ≠ [] := by decide
  have missed : ∃ relation ∈ hauntedHouse.relations,
      haunted.Misses ⟨["rooms", "guests", "tower", "grey", "white"]⟩ relation := by decide
  rcases (haunted.unknown_target_reported_first hauntedHouse
    ⟨["rooms", "guests", "tower", "grey", "white"]⟩).1 missed with ⟨first, firstMissed, fails⟩
  have ghost : haunted.FirstMissed ⟨["rooms", "guests", "tower", "grey", "white"]⟩
      hauntedHouse.relations (.belongsTo "ghost" "white" "of") :=
    ⟨by decide, hauntedHouse.relations.take 3, hauntedHouse.relations.drop 4, by decide,
      by decide⟩
  have isGhost : first.target = "ghost" := congrArg Relation.target (ghost.unique firstMissed)
  exact ⟨first, firstMissed, isGhost, nonempty,
    (fails .interleaved ⟨hauntedStore, []⟩).1 _ nonempty⟩

end RecordGraph
