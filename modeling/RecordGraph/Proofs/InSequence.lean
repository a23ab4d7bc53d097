import RecordGraph.Proofs.SideBySide

/-!
# Loading in sequence is an interleaving

When store calls complete at once, every relation is loaded with everything below it before
the next one.  The tasks of a level can do this too, each of them to its end before the next
takes a step, so that loading in sequence is one of the runs of a resolution, as loading side
by side is.
-/

namespace RecordGraph

/-! ## Transcripts that tasks carry out -/

namespace Transcript

variable {store : Store} {α β : Type} {tasks : Tasks}

/-- Tasks can do what a transcript says: they make its requests, and come to the same end. -/
def CarriedOut (store : Store) (finished : α → Tasks → Prop) (transcript : Transcript α)
    (tasks : Tasks) : Prop :=
  ∃ after, tasks.Reaches store transcript.requests after ∧
    Process.Ends store finished transcript.outcome after

theorem carriedOut_ok {finished : α → Tasks → Prop} {result : α} (ends : finished result tasks) :
    (ok result).CarriedOut store finished tasks :=
  ⟨tasks, .refl tasks, ends⟩

theorem carriedOut_fail {finished : α → Tasks → Prop} {error : AccessError}
    (fails : tasks.Fails store error) :
    (fail error : Transcript α).CarriedOut store finished tasks :=
  ⟨tasks, .refl tasks, fails⟩

theorem CarriedOut.andThen {between : α → Tasks → Prop} {finished : β → Tasks → Prop}
    {earlier : Transcript α} {later : α → Transcript β}
    (first : earlier.CarriedOut store between tasks)
    (second : ∀ result after, between result after →
      (later result).CarriedOut store finished after) :
    (earlier.andThen later).CarriedOut store finished tasks := by
  rcases first with ⟨after, reached, ends⟩
  unfold Transcript.andThen
  cases outcome : earlier.outcome with
  | error error =>
      rw [outcome] at ends
      exact ⟨after, reached, ends⟩
  | ok result =>
      rw [outcome] at ends
      rcases second result after ends with ⟨last, reachedLast, endsLast⟩
      exact ⟨last, reached.trans reachedLast, endsLast⟩

end Transcript

/-! ## Plans -/

section Plans

variable {store : Store} {batch : Batch} {owners : List Document}

/-- The first task has returned what is related to its owners. -/
def Tasks.FirstReturned (task : Task) (rest : Tasks) (related : List Document) (tasks : Tasks) :
    Prop :=
  tasks = .returned ⟨task, related⟩ rest

/-- A level is loaded inside of the task above it, which returns right after. -/
theorem Transcript.CarriedOut.inside {task : Task} {found : List Document}
    {transcript : Transcript (List Document)} {level rest : Tasks}
    (carried : transcript.CarriedOut store (Process.AllAttached found) level) :
    transcript.CarriedOut store (Tasks.FirstReturned task rest) (.entered task found level rest) := by
  rcases carried with ⟨after, reached, ends⟩
  have reachedInside := reached.inside task found rest
  cases outcome : transcript.outcome with
  | error error =>
      rw [outcome] at ends
      refine ⟨_, reachedInside, ?_⟩
      rw [outcome]
      exact .inside ends
  | ok attached =>
      rw [outcome] at ends
      rcases ends with ⟨loaded, all, rfl⟩
      have reachedBack := reachedInside.trans (.of_step (.back all))
      rw [Option.map_none, Option.toList_none, List.append_nil] at reachedBack
      refine ⟨_, reachedBack, ?_⟩
      rw [outcome]
      exact rfl

theorem Task.related_carriedOut (task : Task) (rest : Tasks) {below : Unit → Plan}
    {belowLoaded : Batch → List Document → Transcript (List Document)}
    (belowCarried : ∀ nested found, (belowLoaded nested found).CarriedOut store
      (Process.AllAttached found) ((below ()).enter nested found)) :
    (task.related store belowLoaded).CarriedOut store (Tasks.FirstReturned task rest)
      (.waiting task below rest) := by
  unfold related
  cases started : task.start with
  | nothing => exact ⟨_, .of_step (.skip started), rfl⟩
  | failure error => exact Transcript.carriedOut_fail (.refused started)
  | call call nested =>
      show ((store.reply call).andThen (belowLoaded nested)).CarriedOut store _ _
      by_cases refused : call.request.collection ∈ store.unavailable
      · rw [Store.reply, if_pos refused]
        exact Transcript.carriedOut_fail (.unavailable started refused)
      · rw [Store.reply, if_neg refused]
        rcases (belowCarried nested _).inside with ⟨after, reached, ends⟩
        exact ⟨after, .step (.call started refused) reached, ends⟩

namespace Plan

theorem enter_of_ne_nil (nonempty : owners ≠ []) (plan : Plan) (batch : Batch) :
    plan.enter batch owners = plan.tasks batch owners := by
  rw [enter, if_neg (by simpa using nonempty)]

theorem attached_carriedOut {plan : Plan} {gathering : Transcript (List Loaded)}
    (carried : gathering.CarriedOut store Process.AllLoaded (plan.tasks batch owners)) :
    (attached owners gathering).CarriedOut store (Process.AllAttached owners)
      (plan.enter batch owners) := by
  unfold attached enter
  by_cases empty : owners.isEmpty
  · rw [if_pos empty, if_pos empty]
    exact Transcript.carriedOut_ok ⟨[], rfl, rfl⟩
  · rw [if_neg empty, if_neg empty]
    exact carried.andThen fun loaded after all =>
      Transcript.carriedOut_ok ⟨loaded, all, rfl⟩

/-- The tasks of a level can make all requests of loading it in sequence. -/
theorem gathered_carriedOut (store : Store) (batch : Batch) (owners : List Document)
    (plan : Plan) :
    (plan.gathered store batch owners).CarriedOut store Process.AllLoaded
      (plan.tasks batch owners) := by
  induction plan generalizing batch owners with
  | done => exact Transcript.carriedOut_ok rfl
  | unknown target => exact Transcript.carriedOut_fail (.unknown target)
  | load step below rest belowHypothesis restHypothesis =>
      have first := (step.task batch owners).related_carriedOut (rest.tasks batch owners)
        fun nested found => attached_carriedOut (belowHypothesis () nested found)
      apply first.andThen
      rintro related after rfl
      -- The first task stays where it is, while the others do their part.
      rcases restHypothesis batch owners with ⟨last, reached, ends⟩
      have single : (Tasks.returned ⟨step.task batch owners, related⟩ .nil).Single := .returned _
      have together : (rest.gathered store batch owners).CarriedOut store
          (fun later tasks => tasks.loaded? = some (⟨step.task batch owners, related⟩ :: later))
          (.returned ⟨step.task batch owners, related⟩ (rest.tasks batch owners)) := by
        refine ⟨_, single.reaches_append reached, ?_⟩
        cases outcome : (rest.gathered store batch owners).outcome with
        | error error =>
            rw [outcome] at ends
            exact single.fails_append ends
        | ok later =>
            rw [outcome] at ends
            have restLoaded : last.loaded? = some later := ends
            show (last.loaded?).map _ = _
            rw [restLoaded]
            rfl
      exact together.andThen fun later after all => Transcript.carriedOut_ok all

theorem resolved_carriedOut (plan : Plan) (store : Store) (batch : Batch)
    (owners : List Document) :
    (plan.resolved store batch owners).CarriedOut store (Process.AllAttached owners)
      (plan.enter batch owners) :=
  attached_carriedOut (gathered_carriedOut store batch owners plan)

end Plan

end Plans

/-! ## Runs -/

namespace Adapter

/-- Loading in sequence is a run of the resolution to its end, with the same requests. -/
theorem runs_resolve_direct (adapter : Adapter) (session : Session) (batch : Batch)
    (mapper : Mapper) (owners : List Document) (load : EagerLoad) :
    ∃ log,
      (Resolution.start (adapter.plan mapper load) batch owners).Runs session.store log
        (.ofOutcome owners
          ((adapter.resolve .direct batch mapper owners load).outcome session).1) ∧
      ((adapter.resolve .direct batch mapper owners load).outcome session).2.store.log =
        session.store.log ++ log.map Sent.request := by
  have followed := adapter.follows_resolve session.store batch mapper owners load session
    ⟨rfl, rfl⟩
  rw [followed]
  rcases (adapter.plan mapper load).resolved_carriedOut session.store batch owners with
    ⟨after, reached, ends⟩
  rcases Resolution.runs_ofOutcome reached ends with ⟨log, runs, sameRequests⟩
  refine ⟨log, runs, ?_⟩
  rw [sameRequests]
  rfl

/-- However store calls complete, loading is a run of the resolution to its end. -/
theorem runs_resolve (adapter : Adapter) (pace : Pace) (session : Session) (batch : Batch)
    (mapper : Mapper) (owners : List Document) (load : EagerLoad) :
    ∃ log,
      (Resolution.start (adapter.plan mapper load) batch owners).Runs session.store log
        (.ofOutcome owners
          ((adapter.resolve pace batch mapper owners load).outcome session).1) ∧
      ((adapter.resolve pace batch mapper owners load).outcome session).2.store.log =
        session.store.log ++ log.map Sent.request := by
  cases pace with
  | direct => exact adapter.runs_resolve_direct session batch mapper owners load
  | interleaved => exact adapter.runs_resolve_interleaved session batch mapper owners load

end Adapter

end RecordGraph
