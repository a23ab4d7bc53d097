import RecordGraph.Proofs.DottedPaths
import RecordGraph.Proofs.InSequence

/-!
# The requests of one relation

The tasks of a level take steps in any order, and so do the tasks below them, so that the log of
a resolution mixes the requests of all relations.  The part of it that belongs to one relation,
seen from there, is what its task does by itself: at most one request of its own, and after it
the log of the level below.
-/

namespace RecordGraph

/-! ## Parts of a log -/

namespace Sent

/-- The part of a log that the relation at a position makes, itself or below it, with places
seen from there. -/
def under (position : Nat) (log : List Sent) : List Sent :=
  log.filterMap fun sent =>
    match sent.place with
    | [] => none
    | first :: place => if first = position then some { sent with place } else none

/-- The part of a log that the relation at a place makes, itself or below it. -/
def inside (place : List Nat) (log : List Sent) : List Sent :=
  place.foldl (fun part position => under position part) log

theorem inside_concat (place : List Nat) (position : Nat) (log : List Sent) :
    inside (place ++ [position]) log = under position (inside place log) := by
  simp only [inside, List.foldl_append, List.foldl_cons, List.foldl_nil]

theorem under_append (position : Nat) (earlier later : List Sent) :
    under position (earlier ++ later) = under position earlier ++ under position later :=
  List.filterMap_append

/-- The requests of a relation itself are not those of a relation below it. -/
theorem under_own (position : Nat) (request : Request) (log : List Sent) :
    under position (⟨[], request⟩ :: log) = under position log := rfl

theorem under_below (log : List Sent) : under 0 (log.map below) = log := by
  induction log with
  | nil => rfl
  | cons sent rest inductionHypothesis =>
      show sent :: under 0 (rest.map below) = sent :: rest
      rw [inductionHypothesis]

theorem later_place_ne_nil_iff (sent : Sent) : sent.later.place ≠ [] ↔ sent.place ≠ [] := by
  rcases sent with ⟨_ | ⟨first, place⟩, request⟩ <;> simp [later]

theorem under_zero_later (sent : Sent) : under 0 [sent.later] = [] := by
  rcases sent with ⟨_ | ⟨first, place⟩, request⟩ <;> rfl

theorem under_succ_later (position : Nat) (sent : Sent) :
    under (position + 1) [sent.later] = under position [sent] := by
  rcases sent with ⟨_ | ⟨first, place⟩, request⟩
  · rfl
  · by_cases here : first = position
    · simp [under, later, here]
    · simp [under, later, here]

end Sent

/-! ## Runs of tasks -/

namespace Tasks

variable {store : Store} {tasks first next last : Tasks} {sent : Option Sent} {log : List Sent}

/-- Tasks take steps in a row, and send requests with them. -/
inductive Runs (store : Store) : Tasks → List Sent → Tasks → Prop
  | refl (tasks : Tasks) : Runs store tasks [] tasks
  | step {first second last : Tasks} {sent : Option Sent} {log : List Sent} :
      first.Step store sent second → Runs store second log last →
      Runs store first (sent.toList ++ log) last

/-- Every request comes from a relation of the level or from below one. -/
theorem Step.place_ne_nil (taken : tasks.Step store sent next) :
    ∀ made ∈ sent, made.place ≠ [] := by
  induction taken with
  | call _ _ =>
      rintro made ⟨rfl⟩
      exact List.cons_ne_nil _ _
  | skip _ => exact fun made impossible => nomatch impossible
  | back _ => exact fun made impossible => nomatch impossible
  | inside _ _ =>
      rw [Option.forall_mem_map]
      exact fun made _ => List.cons_ne_nil _ _
  | afterWaiting _ inductionHypothesis =>
      simpa only [Option.forall_mem_map, Sent.later_place_ne_nil_iff] using inductionHypothesis
  | afterEntered _ inductionHypothesis =>
      simpa only [Option.forall_mem_map, Sent.later_place_ne_nil_iff] using inductionHypothesis
  | afterReturned _ inductionHypothesis =>
      simpa only [Option.forall_mem_map, Sent.later_place_ne_nil_iff] using inductionHypothesis

theorem Runs.place_ne_nil (runs : first.Runs store log last) :
    ∀ made ∈ log, made.place ≠ [] := by
  induction runs with
  | refl tasks => exact fun made member => nomatch member
  | step taken _ inductionHypothesis =>
      intro made member
      rcases List.mem_append.mp member with isFirst | isLater
      · exact taken.place_ne_nil made (Option.mem_toList.mp isFirst)
      · exact inductionHypothesis made isLater

/-! ### One task and those after it -/

/-- A step of tasks in line is one of the first task or one of the others. -/
theorem Single.step_append_cases (single : first.Single)
    (taken : (first.append tasks).Step store sent next) :
    (∃ changed, first.Step store sent changed ∧ next = changed.append tasks) ∨
      ∃ made after, tasks.Step store made after ∧ sent = made.map Sent.later ∧
        next = first.append after := by
  cases single with
  | waiting task below =>
      cases taken with
      | call started accepted => exact Or.inl ⟨_, .call started accepted, rfl⟩
      | skip started => exact Or.inl ⟨_, .skip started, rfl⟩
      | afterWaiting taken => exact Or.inr ⟨_, _, taken, rfl, rfl⟩
  | entered task found level =>
      cases taken with
      | back all => exact Or.inl ⟨_, .back all, rfl⟩
      | inside taken => exact Or.inl ⟨_, .inside taken, rfl⟩
      | afterEntered taken => exact Or.inr ⟨_, _, taken, rfl, rfl⟩
  | returned loaded =>
      cases taken with
      | afterReturned taken => exact Or.inr ⟨_, _, taken, rfl, rfl⟩

theorem Single.under_step (single : first.Single) (taken : first.Step store sent next)
    (position : Nat) : Sent.under (position + 1) sent.toList = [] := by
  cases single with
  | waiting task below =>
      cases taken with
      | call _ _ => rfl
      | skip _ => rfl
      | afterWaiting impossible => cases impossible
  | entered task found level =>
      cases taken with
      | back _ => rfl
      | @inside _ _ _ _ _ made _ => cases made <;> rfl
      | afterEntered impossible => cases impossible
  | returned loaded =>
      cases taken with
      | afterReturned impossible => cases impossible

/-- In a run of tasks in line, the first task and the others have a run each. -/
theorem Single.runs_append (single : first.Single)
    (runs : (first.append tasks).Runs store log last) :
    ∃ firstLog restLog changed after, first.Runs store firstLog changed ∧
      tasks.Runs store restLog after ∧ last = changed.append after ∧
      Sent.under 0 log = Sent.under 0 firstLog ∧
      ∀ position, Sent.under (position + 1) log = Sent.under position restLog := by
  generalize start : first.append tasks = whole at runs
  induction runs generalizing first tasks with
  | refl _ => exact ⟨[], [], first, tasks, .refl _, .refl _, start.symm, rfl, fun _ => rfl⟩
  | @step _ _ _ sent _ taken _ inductionHypothesis =>
      subst start
      rcases single.step_append_cases taken with
        ⟨changed, takenFirst, rfl⟩ | ⟨made, after, takenRest, rfl, rfl⟩
      · rcases inductionHypothesis (single.step takenFirst) rfl with
          ⟨firstLog, restLog, final, last, runsFirst, runsRest, split, ownPart, otherParts⟩
        refine ⟨_, restLog, final, last, .step takenFirst runsFirst, runsRest, split, ?_, ?_⟩
        · rw [Sent.under_append, Sent.under_append, ownPart]
        · intro position
          rw [Sent.under_append, single.under_step takenFirst, otherParts]
          rfl
      · rcases inductionHypothesis single rfl with
          ⟨firstLog, restLog, final, last, runsFirst, runsRest, split, ownPart, otherParts⟩
        refine ⟨firstLog, _, final, last, runsFirst, .step takenRest runsRest, split, ?_, ?_⟩
        · rw [Sent.under_append, ownPart]
          cases made with
          | none => rfl
          | some made =>
              show Sent.under 0 [made.later] ++ _ = _
              rw [Sent.under_zero_later]
              rfl
        · intro position
          rw [Sent.under_append, Sent.under_append, otherParts]
          cases made with
          | none => rfl
          | some made =>
              show Sent.under (position + 1) [made.later] ++ _ = _
              rw [Sent.under_succ_later]
              rfl

theorem Single.runs (single : first.Single) (runs : first.Runs store log last) : last.Single := by
  induction runs with
  | refl tasks => exact single
  | step taken _ inductionHypothesis => exact inductionHypothesis (single.step taken)

/-- Tasks in line have not all returned before the first one has. -/
theorem Single.loaded?_append (single : first.Single)
    (all : (first.append tasks).loaded? ≠ none) :
    first.loaded? ≠ none ∧ tasks.loaded? ≠ none := by
  cases single with
  | waiting task below => exact absurd rfl all
  | entered task found level => exact absurd rfl all
  | returned loaded =>
      refine ⟨Option.some_ne_none _, ?_⟩
      intro unfinished
      apply all
      show tasks.loaded?.map _ = none
      rw [unfinished]
      rfl

/-- Without the target of one of its relations, no task of a level runs. -/
theorem runs_unknown {target : String} (runs : (unknown target).Runs store log last) :
    log = [] ∧ last.loaded? = none := by
  cases runs with
  | refl _ => exact ⟨rfl, rfl⟩
  | step impossible _ => cases impossible

/-! ### One task alone -/

theorem runs_returned {loaded : Loaded} (runs : (returned loaded .nil).Runs store log last) :
    log = [] := by
  cases runs with
  | refl _ => rfl
  | step taken _ =>
      cases taken with
      | afterReturned impossible => cases impossible

/-- While the level below a task is open, requests are made from there. -/
theorem runs_entered {task : Task} {found : List Document} {level : Tasks}
    (runs : (entered task found level .nil).Runs store log last) :
    ∃ levelLog levelLast, level.Runs store levelLog levelLast ∧ log = levelLog.map Sent.below ∧
      (last.loaded? ≠ none → levelLast.loaded? ≠ none) := by
  generalize start : entered task found level .nil = whole at runs
  induction runs generalizing level with
  | refl _ =>
      subst start
      exact ⟨[], level, .refl level, rfl, fun all => absurd rfl all⟩
  | @step _ _ _ sent _ taken runs inductionHypothesis =>
      subst start
      cases taken with
      | @back _ _ _ _ loaded all =>
          have silent := runs_returned runs
          refine ⟨[], level, .refl level, silent, fun _ => ?_⟩
          rw [all]
          exact Option.some_ne_none loaded
      | @inside _ _ _ _ _ made taken =>
          rcases inductionHypothesis rfl with ⟨levelLog, levelLast, levelRuns, rfl, finished⟩
          refine ⟨_, levelLast, .step taken levelRuns, ?_, finished⟩
          cases made <;> rfl
      | afterEntered impossible => cases impossible

/-- A task that has made its call has opened the level below it. -/
theorem runs_waiting {task : Task} {below : Unit → Plan}
    (runs : (waiting task below .nil).Runs store log last) :
    (log = [] ∧ (last.loaded? ≠ none → task.start = .nothing)) ∨
      ∃ call nested levelLog level, task.start = .call call nested ∧
        call.request.collection ∉ store.unavailable ∧
        Sent.under 0 log = ⟨[], call.request⟩ :: levelLog ∧
        ((below ()).enter nested
          (call.answer (store.records call.request.collection))).Runs store levelLog level ∧
        (last.loaded? ≠ none → level.loaded? ≠ none) := by
  cases runs with
  | refl _ => exact Or.inl ⟨rfl, fun all => absurd rfl all⟩
  | step taken runs =>
      cases taken with
      | @call _ call nested _ _ started accepted =>
          rcases runs_entered runs with ⟨levelLog, level, levelRuns, rfl, finished⟩
          refine Or.inr ⟨call, nested, levelLog, level, started, accepted, ?_, levelRuns, finished⟩
          rw [Sent.under_append, Sent.under_below]
          rfl
      | skip started =>
          have silent := runs_returned runs
          exact Or.inl ⟨silent, fun _ => started⟩
      | afterWaiting impossible => cases impossible

end Tasks

/-! ## Relations of a level -/

namespace Plan

/-- The step at a position of a level, and the level below it. -/
def at? : Plan → Nat → Option (Step × Plan)
  | .load step below _, 0 => some (step, below ())
  | .load _ _ rest, position + 1 => rest.at? position
  | .done, _ => none
  | .unknown _, _ => none

variable {store : Store} {plan nestedPlan : Plan} {batch : Batch} {owners : List Document}
  {position : Nat} {step : Step} {log : List Sent} {last : Tasks}

/-- In a run of a level, every task has a run. -/
theorem exists_runs_at (there : plan.at? position = some (step, nestedPlan))
    (runs : (plan.tasks batch owners).Runs store log last) :
    ∃ below ownLog changed, below () = nestedPlan ∧
      (Tasks.waiting (step.task batch owners) below .nil).Runs store ownLog changed ∧
      Sent.under position log = Sent.under 0 ownLog ∧
      (last.loaded? ≠ none → changed.loaded? ≠ none) := by
  induction plan generalizing position log last with
  | done => cases there
  | unknown target => cases there
  | load first below rest _ restHypothesis =>
      have single : (Tasks.waiting (first.task batch owners) below .nil).Single := .waiting _ _
      rcases single.runs_append runs with
        ⟨firstLog, restLog, changed, after, runsFirst, runsRest, rfl, ownPart, otherParts⟩
      have changedSingle := single.runs runsFirst
      cases position with
      | zero =>
          cases there
          exact ⟨below, firstLog, changed, rfl, runsFirst, ownPart,
            fun all => (changedSingle.loaded?_append all).1⟩
      | succ position =>
          rcases restHypothesis there runsRest with
            ⟨restBelow, ownLog, restChanged, isBelow, ownRuns, samePart, restFinished⟩
          exact ⟨restBelow, ownLog, restChanged, isBelow, ownRuns,
            (otherParts position).trans samePart, 
            fun all => restFinished (changedSingle.loaded?_append all).2⟩

/-- The part of a log that belongs to a relation: nothing as long as its task has made no call,
and otherwise the request of this call, followed by the log of the level below. -/
theorem under_runs (there : plan.at? position = some (step, nestedPlan))
    (runs : (plan.tasks batch owners).Runs store log last) :
    (Sent.under position log = [] ∧
        (last.loaded? ≠ none → (step.task batch owners).start = .nothing)) ∨
      ∃ call nested levelLog level, (step.task batch owners).start = .call call nested ∧
        call.request.collection ∉ store.unavailable ∧
        Sent.under position log = ⟨[], call.request⟩ :: levelLog ∧
        (nestedPlan.enter nested
          (call.answer (store.records call.request.collection))).Runs store levelLog level ∧
        (last.loaded? ≠ none → level.loaded? ≠ none) := by
  rcases exists_runs_at there runs with ⟨below, ownLog, changed, rfl, ownRuns, samePart, finished⟩
  rw [samePart]
  rcases Tasks.runs_waiting ownRuns with
    ⟨rfl, nothing⟩ | ⟨call, nested, levelLog, level, started, accepted, isPart, runsBelow, all⟩
  · exact Or.inl ⟨rfl, fun allReturned => nothing (finished allReturned)⟩
  · exact Or.inr ⟨call, nested, levelLog, level, started, accepted, isPart, runsBelow,
      fun allReturned => all (finished allReturned)⟩

end Plan

/-! ## Levels at their places -/

namespace Level

variable {store : Store} {root level : Level} {log : List Sent} {finished : Prop}

/-- Loading on one level opens another one, at the place of the relation above it: the owners
are the records that the call of this relation finds. -/
inductive OpensAt (store : Store) (root : Level) : List Nat → Level → Prop
  | start : OpensAt store root [] root
  | deeper {level : Level} {place : List Nat} {position : Nat} {step : Step} {plan : Plan}
      {call : Call (List Document)} {nested : Batch} :
      OpensAt store root place level → level.owners ≠ [] →
      level.plan.at? position = some (step, plan) →
      (step.task level.batch level.owners).start = .call call nested →
      call.request.collection ∉ store.unavailable →
      OpensAt store root (place ++ [position])
        ⟨plan, nested, call.answer (store.records call.request.collection)⟩

/-- The tasks of a level have sent some requests, and have loaded everything if the level is
finished. -/
def Sends (level : Level) (store : Store) (log : List Sent) (finished : Prop) : Prop :=
  ∃ tasks, (level.plan.enter level.batch level.owners).Runs store log tasks ∧
    (finished → tasks.loaded? ≠ none)

theorem sends_of_runs {resolution last : Resolution} (runs : resolution.Runs store log last)
    (starts : resolution = .start level.plan level.batch level.owners) :
    level.Sends store log (last.progress = .succeeded) := by
  have tasksRun : ∀ tasks, resolution.progress = .running tasks →
      ∃ final, tasks.Runs store log final ∧
        (last.progress = .succeeded → final.loaded? ≠ none) := by
    clear starts
    induction runs with
    | refl resolution =>
        intro tasks isRunning
        refine ⟨tasks, .refl tasks, fun succeeded => ?_⟩
        rw [isRunning] at succeeded
        cases succeeded
    | step taken runs inductionHypothesis =>
        intro tasks isRunning
        cases taken with
        | advance taken =>
            cases isRunning
            rcases inductionHypothesis _ rfl with ⟨final, runsOn, finished⟩
            exact ⟨final, .step taken runsOn, finished⟩
        | @attach _ _ loaded all =>
            cases isRunning
            cases runs with
            | refl _ =>
                refine ⟨tasks, .refl tasks, fun _ => ?_⟩
                rw [all]
                exact Option.some_ne_none loaded
            | step impossible _ => cases impossible
        | abort _ =>
            cases isRunning
            cases runs with
            | refl _ => exact ⟨tasks, .refl tasks, fun impossible => nomatch impossible⟩
            | step impossible _ => cases impossible
  rw [starts] at tasksRun
  exact tasksRun _ rfl

/-- What belongs to the relations of a level that is opened is sent by its tasks. -/
theorem OpensAt.exists_sends {place : List Nat} (opened : root.OpensAt store place level)
    (sends : root.Sends store log finished) :
    ∃ levelLog, level.Sends store levelLog finished ∧
      ∀ position, Sent.inside (place ++ [position]) log = Sent.under position levelLog := by
  induction opened with
  | start => exact ⟨log, sends, fun _ => rfl⟩
  | @deeper level place position step plan call nested _ nonempty there started accepted
      inductionHypothesis =>
      rcases inductionHypothesis with ⟨levelLog, ⟨tasks, runs, all⟩, isPart⟩
      rw [Plan.enter_of_ne_nil nonempty] at runs
      rcases Plan.under_runs there runs with
        ⟨silent, nothing⟩ | ⟨other, otherNested, belowLog, final, sameStart, _, own, runsBelow,
          allBelow⟩
      · refine ⟨[], ⟨_, .refl _, fun isFinished => ?_⟩, fun further => ?_⟩
        · rw [nothing (all isFinished)] at started
          cases started
        · rw [Sent.inside_concat, isPart, silent]
      · cases started.symm.trans sameStart
        refine ⟨belowLog, ⟨final, runsBelow, fun isFinished => allBelow (all isFinished)⟩, ?_⟩
        intro further
        rw [Sent.inside_concat, isPart, own, Sent.under_own]

end Level

end RecordGraph
