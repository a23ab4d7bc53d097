import Mathlib
import RecordGraph.Proofs.EagerEntries
import RecordGraph.Proofs.Forecast
import RecordGraph.Proofs.SideBySide

/-!
# What interleavings come to

Every interleaving of a resolution ends, and it ends as loading in sequence does: with the
same records, after the same requests in some order in which no relation asks for records
before the relations above it have, or with a failure that leaves the owners as they were.
Loading side by side is one of these interleavings.
-/

namespace RecordGraph

/-! ## Loading in sequence -/

namespace Forecast

variable {α β : Type}

/-- A transcript does what was foretold, or fails if nothing was. -/
def Foretells : Option (Forecast α) → Transcript α → Prop
  | some forecast, transcript =>
      transcript = ⟨forecast.sent.map Sent.request, .ok forecast.result⟩
  | none, transcript => ∃ error, transcript.outcome = .error error

theorem Foretells.bind {first : Option (Forecast α)} {transcript : Transcript α}
    (foretold : Foretells first transcript) {next : Forecast α → Option (Forecast β)}
    {later : α → Transcript β}
    (goesOn : ∀ ahead, first = some ahead → Foretells (next ahead)
      ⟨ahead.sent.map Sent.request ++ (later ahead.result).requests,
        (later ahead.result).outcome⟩) :
    Foretells (first.bind next) (transcript.andThen later) := by
  cases first with
  | none =>
      rcases foretold with ⟨error, fails⟩
      refine ⟨error, ?_⟩
      rw [Transcript.outcome_andThen, fails]
      rfl
  | some ahead =>
      cases foretold
      exact goesOn ahead rfl

theorem Foretells.inOrder {first : Option (Forecast Loaded)} {transcript : Transcript Loaded}
    (firstForetold : Foretells first transcript) {rest : Option (Forecast (List Loaded))}
    {others : Transcript (List Loaded)} (restForetold : Foretells rest others) :
    Foretells (inOrder first rest)
      (transcript.andThen fun loaded => others.andThen fun later => .ok (loaded :: later)) := by
  apply firstForetold.bind
  intro now _
  cases rest with
  | none =>
      rcases restForetold with ⟨error, fails⟩
      refine ⟨error, ?_⟩
      simp only [Transcript.outcome_andThen, fails, Except.bind]
  | some later =>
      cases restForetold
      have sameRequests := Sent.map_request_later later.sent
      simp [Foretells, Transcript.andThen, Transcript.ok, sameRequests]

theorem foretells_task {task : Task} {store : Store}
    {level : Batch → List Document → Option (Forecast (List Loaded))}
    {below : Batch → List Document → Transcript (List Document)}
    (levelForetold : ∀ nested found,
      Foretells ((level nested found).map (attached found)) (below nested found)) :
    Foretells (task.forecast? store level)
      ((task.related store below).andThen fun related => .ok ⟨task, related⟩) := by
  unfold Task.forecast? Task.related
  cases task.start with
  | nothing => rfl
  | failure error => exact ⟨error, rfl⟩
  | call call nested =>
      by_cases refused : call.request.collection ∈ store.unavailable
      · simp only [if_pos refused, Store.reply]
        exact ⟨_, rfl⟩
      · simp only [if_neg refused, Store.reply]
        have foretold := levelForetold nested
          (call.answer (store.records call.request.collection))
        cases isAhead : level nested (call.answer (store.records call.request.collection)) with
        | none =>
            rw [isAhead] at foretold
            rcases foretold with ⟨error, fails⟩
            refine ⟨error, ?_⟩
            simp only [Transcript.outcome_andThen, fails, Except.bind]
        | some ahead =>
            rw [isAhead] at foretold
            have sameBelow : below nested (call.answer (store.records call.request.collection)) =
                ⟨ahead.sent.map Sent.request, .ok (Loaded.attachTo _ ahead.result)⟩ := foretold
            have sameRequests := Sent.map_request_below ahead.sent
            simp [Foretells, Transcript.andThen, sameBelow, Transcript.ok, afterSending, inside,
              sameRequests]

end Forecast

namespace Plan

open Forecast (Foretells)

theorem foretells_level {plan : Plan} {store : Store} {batch : Batch} {owners : List Document}
    (foretold : Foretells (plan.forecast? store batch owners)
      (plan.gathered store batch owners)) :
    Foretells ((plan.levelForecast? store batch owners).map (Forecast.attached owners))
      (plan.resolved store batch owners) := by
  unfold levelForecast? resolved attached
  by_cases empty : owners.isEmpty
  · have noOwners : owners = [] := List.isEmpty_iff.mp empty
    subst noOwners
    rfl
  · simp only [if_neg empty]
    rw [Option.map_eq_bind]
    apply foretold.bind
    intro ahead _
    simp [Foretells, Transcript.ok, Forecast.attached]

theorem foretells_gathered (plan : Plan) (store : Store) (batch : Batch)
    (owners : List Document) :
    Foretells (plan.forecast? store batch owners) (plan.gathered store batch owners) := by
  induction plan generalizing batch owners with
  | done => rfl
  | unknown target => exact ⟨_, rfl⟩
  | load step below rest belowHypothesis restHypothesis =>
      have first : Foretells
          ((step.task batch owners).forecast? store fun nested found =>
            (below ()).levelForecast? store nested found)
          (((step.task batch owners).related store fun nested found =>
            (below ()).resolved store nested found).andThen fun related =>
              .ok ⟨step.task batch owners, related⟩) :=
        Forecast.foretells_task fun nested found =>
          foretells_level (belowHypothesis () nested found)
      have all := first.inOrder (restHypothesis batch owners)
      rw [Transcript.andThen_assoc] at all
      exact all

/-- Loading in sequence does what is foretold of the level. -/
theorem foretells_resolved (plan : Plan) (store : Store) (batch : Batch)
    (owners : List Document) :
    Foretells ((plan.levelForecast? store batch owners).map (Forecast.attached owners))
      (plan.resolved store batch owners) :=
  foretells_level (foretells_gathered plan store batch owners)

end Plan

/-! ## Interleavings end -/

/-- The number of steps that a task takes which has not made its call. -/
def Task.work (task : Task) (store : Store) (level : Batch → List Document → Nat) : Nat :=
  match task.start with
  | .nothing => 1
  | .failure _ => 1
  | .call call nested => level nested (call.answer (store.records call.request.collection)) + 2

def Plan.work (store : Store) (batch : Batch) (owners : List Document) : Plan → Nat
  | .done => 0
  | .unknown _ => 0
  | .load step below rest =>
      (step.task batch owners).work store (fun nested found => (below ()).work store nested found) +
        rest.work store batch owners

namespace Tasks

def work (store : Store) : Tasks → Nat
  | .nil => 0
  | .unknown _ => 0
  | .waiting task below rest =>
      task.work store (fun nested found => (below ()).work store nested found) + rest.work store
  | .entered _ _ level rest => level.work store + 1 + rest.work store
  | .returned _ rest => rest.work store

theorem work_tasks (plan : Plan) (store : Store) (batch : Batch) (owners : List Document) :
    (plan.tasks batch owners).work store = plan.work store batch owners := by
  induction plan with
  | done => rfl
  | unknown target => rfl
  | load step below rest _ restHypothesis =>
      simp only [Plan.tasks, work, Plan.work, restHypothesis]

theorem work_enter_le (plan : Plan) (store : Store) (batch : Batch) (owners : List Document) :
    (plan.enter batch owners).work store ≤ plan.work store batch owners := by
  by_cases empty : owners.isEmpty
  · simp only [Plan.enter, if_pos empty]
    exact Nat.zero_le _
  · simp only [Plan.enter, if_neg empty, work_tasks]
    exact Nat.le_refl _

theorem Step.work_lt {store : Store} {tasks next : Tasks} {sent : Option Sent}
    (step : tasks.Step store sent next) : next.work store < tasks.work store := by
  induction step with
  | @call task call nested below rest started accepted =>
      -- The call and the return of the task are counted with the work below it.
      have smaller := work_enter_le (below ()) store nested
        (call.answer (store.records call.request.collection))
      simp only [work, Task.work, started]
      omega
  | skip started =>
      simp only [work, Task.work, started]
      omega
  | back all =>
      simp only [work]
      omega
  | _ =>
      simp only [work]
      omega

end Tasks

namespace Resolution

def work (store : Store) (resolution : Resolution) : Nat :=
  match resolution.progress with
  | .running tasks => tasks.work store + 1
  | .succeeded => 0
  | .failed _ => 0

theorem Step.work_lt {store : Store} {resolution next : Resolution} {sent : Option Sent}
    (step : resolution.Step store sent next) : next.work store < resolution.work store := by
  cases step with
  | advance taken =>
      have smaller := taken.work_lt
      simp only [work]
      omega
  | attach => simp [work]
  | abort => simp [work]

/-- No resolution goes on for ever. -/
theorem wellFounded_step (store : Store) :
    WellFounded fun next resolution : Resolution => ∃ sent, resolution.Step store sent next := by
  apply Subrelation.wf _ (measure (work store)).wf
  intro next resolution taken
  rcases taken with ⟨sent, step⟩
  exact step.work_lt

/-- Some interleaving of every resolution comes to an end. -/
theorem exists_runs_ended (store : Store) (resolution : Resolution) :
    ∃ log final, resolution.Runs store log final ∧ final.Ended store := by
  induction resolution using (wellFounded_step store).induction with
  | _ resolution inductionHypothesis =>
      by_cases ended : resolution.Ended store
      · exact ⟨[], resolution, .refl resolution, ended⟩
      · simp only [Ended, not_forall, not_not] at ended
        rcases ended with ⟨sent, next, step⟩
        rcases inductionHypothesis next ⟨sent, step⟩ with ⟨log, final, runs, finalEnded⟩
        exact ⟨sent.toList ++ log, final, .step step runs, finalEnded⟩

/-! ## Interleavings keep the forecast -/

variable {store : Store} {first second last : Resolution} {sent : Option Sent} {log : List Sent}

def forecast? (store : Store) (resolution : Resolution) : Option (Forecast (List Document)) :=
  match resolution.progress with
  | .running tasks => (tasks.forecast? store).map (.attached resolution.owners)
  | .succeeded => some ⟨[], resolution.owners⟩
  | .failed _ => none

theorem Step.leaves (step : first.Step store sent second) :
    Option.Rel (Forecast.Leaves sent.toList) (first.forecast? store)
      (second.forecast? store) := by
  cases step with
  | @advance owners tasks next _ taken =>
      exact Forecast.attached_of_level taken.leaves owners
  | attach all =>
      simp only [forecast?, Tasks.forecast?_of_loaded? all]
      exact .some (.refl _)
  | abort fails =>
      simp only [forecast?, fails.forecast?_eq]
      exact .none

theorem Step.not_prefix (step : first.Step store sent second)
    {forecast : Forecast (List Document)} (foretold : second.forecast? store = some forecast) :
    ∀ earlier ∈ sent, ∀ later ∈ forecast.sent, ¬ later.place <+: earlier.place := by
  cases step with
  | advance taken =>
      rcases Option.map_eq_some_iff.mp foretold with ⟨ahead, isAhead, rfl⟩
      exact taken.not_prefix isAhead
  | attach => simp
  | abort => simp

theorem Runs.leaves (runs : first.Runs store log last) :
    Option.Rel (Forecast.Leaves log) (first.forecast? store) (last.forecast? store) := by
  induction runs with
  | refl resolution =>
      cases resolution.forecast? store with
      | none => exact .none
      | some forecast => exact .some (.refl forecast)
  | step taken _ inductionHypothesis => exact Forecast.leaves_trans taken.leaves inductionHypothesis

/-- No relation asks for records before the relations above it have. -/
theorem Runs.not_prefix (runs : first.Runs store log last) {forecast : Forecast (List Document)}
    (foretold : last.forecast? store = some forecast) :
    log.Pairwise fun earlier later => ¬ later.place <+: earlier.place := by
  induction runs with
  | refl resolution => exact List.Pairwise.nil
  | @step first second last sent log taken rest inductionHypothesis =>
      apply List.pairwise_append.mpr
      refine ⟨?_, inductionHypothesis foretold, ?_⟩
      · cases sent <;> simp
      · intro earlier isEarlier later isLater
        have kept := rest.leaves
        rw [foretold] at kept
        generalize between : second.forecast? store = expected at kept
        cases kept with
        | @some ahead _ leaves =>
            apply taken.not_prefix between earlier (by simpa using isEarlier) later
            exact leaves.perm.mem_iff.mpr (List.mem_append_left _ isLater)

/-- Only success changes the owners. -/
theorem Runs.owners_eq (runs : first.Runs store log last)
    (unfinished : last.progress ≠ .succeeded) : last.owners = first.owners := by
  induction runs with
  | refl resolution => rfl
  | step taken rest inductionHypothesis =>
      have later := inductionHypothesis unfinished
      cases taken with
      | advance _ => exact later
      | abort _ => exact later
      | attach _ =>
          cases rest with
          | refl => exact absurd rfl unfinished
          | step impossible _ => cases impossible

theorem Ended.not_running (ended : last.Ended store) :
    last.progress = .succeeded ∨ ∃ error, last.progress = .failed error := by
  rcases last with ⟨owners, progress⟩
  cases progress with
  | succeeded => exact Or.inl rfl
  | failed error => exact Or.inr ⟨error, rfl⟩
  | running tasks =>
      exfalso
      rcases tasks.loaded_or_fails_or_steps store with
        ⟨loaded, all⟩ | ⟨error, fails⟩ | ⟨sent, next, step⟩
      · exact ended _ _ (.attach all)
      · exact ended _ _ (.abort fails)
      · exact ended _ _ (.advance step)

theorem forecast?_start (store : Store) (plan : Plan) (batch : Batch) (owners : List Document) :
    (start plan batch owners).forecast? store =
      (plan.levelForecast? store batch owners).map (.attached owners) := by
  simp only [start, forecast?, Tasks.forecast?_enter]

theorem ordered_start {plan : Plan} {batch : Batch} {owners : List Document}
    {forecast : Forecast (List Document)}
    (foretold : (start plan batch owners).forecast? store = some forecast) :
    forecast.Ordered := by
  rw [forecast?_start] at foretold
  rcases Option.map_eq_some_iff.mp foretold with ⟨ahead, isAhead, rfl⟩
  by_cases empty : owners.isEmpty
  · rw [Plan.levelForecast?, if_pos empty] at isAhead
    cases isAhead
    exact List.Pairwise.nil
  · rw [Plan.levelForecast?, if_neg empty] at isAhead
    exact Plan.ordered_forecast? isAhead

/-- A resolution that ends has succeeded with what was foretold at its start, after the
requests that were foretold, or has failed because nothing was. -/
theorem Runs.ends {plan : Plan} {batch : Batch} {owners : List Document} {final : Resolution}
    (runs : (start plan batch owners).Runs store log final) (ended : final.Ended store) :
    (∃ forecast, (start plan batch owners).forecast? store = some forecast ∧
        final.progress = .succeeded ∧ forecast.result = final.owners ∧ log.Perm forecast.sent ∧
        log.Pairwise fun earlier later => ¬ later.place <+: earlier.place) ∨
      ((start plan batch owners).forecast? store = none ∧
        ∃ error, final.progress = .failed error) := by
  have kept := runs.leaves
  rcases ended.not_running with succeeded | ⟨error, failed⟩
  · have foretold : final.forecast? store = some ⟨[], final.owners⟩ := by
      simp only [forecast?, succeeded]
    have order := runs.not_prefix foretold
    rw [foretold] at kept
    generalize atStart : (start plan batch owners).forecast? store = expected at kept
    cases kept with
    | @some forecast _ leaves =>
        have sameRequests := leaves.perm.symm
        rw [List.append_nil] at sameRequests
        exact Or.inl ⟨forecast, rfl, succeeded, leaves.result, sameRequests, order⟩
  · have unforetold : final.forecast? store = none := by
      simp only [forecast?, failed]
    rw [unforetold] at kept
    generalize atStart : (start plan batch owners).forecast? store = expected at kept
    cases kept with
    | none => exact Or.inr ⟨rfl, error, failed⟩

end Resolution

/-- Whichever way store calls complete, resolving succeeds as loading in sequence does. -/
theorem Adapter.outcome_resolve_eq_ok_iff (adapter : Adapter) (pace : Pace) (session : Session)
    (batch : Batch) (mapper : Mapper) (owners : List Document) (load : EagerLoad)
    (resolved : List Document) :
    ((adapter.resolve pace batch mapper owners load).outcome session).1 = .ok resolved ↔
      ((adapter.plan mapper load).resolved session.store batch owners).outcome =
        .ok resolved := by
  cases pace with
  | direct => rw [(adapter.follows_resolve session.store batch mapper owners load).outcome_eq rfl]
  | interleaved =>
      rcases adapter.runs_resolve_interleaved session batch mapper owners load with ⟨log, runs, _⟩
      have foretold := (adapter.plan mapper load).foretells_resolved session.store batch owners
      rw [← Resolution.forecast?_start] at foretold
      have ends := runs.ends (Resolution.ended_ofOutcome _ _ _)
      cases outcome :
          ((adapter.resolve .interleaved batch mapper owners load).outcome session).1 with
      | error error =>
          rw [outcome] at ends
          rcases ends with ⟨_, _, ⟨⟩, _⟩ | ⟨atStart, _⟩
          rw [atStart] at foretold
          rcases foretold with ⟨other, fails⟩
          rw [fails]
          simp
      | ok result =>
          rw [outcome] at ends
          rcases ends with ⟨forecast, atStart, _, sameOwners, _⟩ | ⟨_, _, ⟨⟩⟩
          rw [atStart] at foretold
          have transcript : (adapter.plan mapper load).resolved session.store batch owners =
              ⟨forecast.sent.map Sent.request, .ok forecast.result⟩ := foretold
          rw [transcript, sameOwners]
          rfl

/-- Resolutions end, whichever task takes the next step.  They succeed exactly if loading in
sequence does, and then give the same records after the same requests, in an order in which
no relation asks before those above it have; otherwise they fail and leave the owners as they
were.  Loading in sequence makes the requests in the order of their places, and loading side
by side is one of the ways in which a resolution runs to its end. -/
theorem interleaving_ends_as_sequence (adapter : Adapter) (session : Session) (batch : Batch)
    (mapper : Mapper) (owners : List Document) (load : EagerLoad) :
    (WellFounded fun next resolution : Resolution =>
        ∃ sent, resolution.Step session.store sent next) ∧
      (∀ (log : List Sent) (final : Resolution),
        (Resolution.start (adapter.plan mapper load) batch owners).Runs session.store log final →
        final.Ended session.store →
        (final.progress = .succeeded ↔ ∃ resolved,
            ((adapter.resolve .direct batch mapper owners load).outcome session).1 =
              .ok resolved) ∧
          (∀ resolved,
            ((adapter.resolve .direct batch mapper owners load).outcome session).1 =
              .ok resolved →
            final.owners = resolved ∧
              ∃ inSequence : List Sent,
                ((adapter.resolve .direct batch mapper owners load).outcome
                    session).2.store.log =
                  session.store.log ++ inSequence.map Sent.request ∧
                (inSequence.Pairwise fun earlier later => Precedes earlier.place later.place) ∧
                log.Perm inSequence ∧
                log.Pairwise fun earlier later => ¬ later.place <+: earlier.place) ∧
          (final.progress ≠ .succeeded →
            final.owners = owners ∧ ∃ error, final.progress = .failed error)) ∧
      ∃ log : List Sent,
        (Resolution.start (adapter.plan mapper load) batch owners).Runs session.store log
          (.ofOutcome owners
            ((adapter.resolve .interleaved batch mapper owners load).outcome session).1) ∧
        ((adapter.resolve .interleaved batch mapper owners load).outcome session).2.store.log =
          session.store.log ++ log.map Sent.request := by
  refine ⟨Resolution.wellFounded_step session.store, ?_,
    adapter.runs_resolve_interleaved session batch mapper owners load⟩
  intro log final runs ended
  -- Both sides are compared with the forecast at the start: loading in sequence does what it
  -- says, and every step of the run has left the rest of it as it was.
  have foretold := (adapter.plan mapper load).foretells_resolved session.store batch owners
  rw [← Resolution.forecast?_start] at foretold
  have followed := adapter.follows_resolve session.store batch mapper owners load session
    ⟨rfl, rfl⟩
  rcases runs.ends ended with
    ⟨forecast, atStart, succeeded, sameOwners, sameRequests, order⟩ | ⟨atStart, error, failed⟩
  · rw [atStart] at foretold
    have transcript : (adapter.plan mapper load).resolved session.store batch owners =
        ⟨forecast.sent.map Sent.request, .ok forecast.result⟩ := foretold
    rw [followed, transcript]
    refine ⟨⟨fun _ => ⟨_, rfl⟩, fun _ => succeeded⟩, ?_, fun other => absurd succeeded other⟩
    intro resolved isResolved
    cases isResolved
    exact ⟨sameOwners.symm, forecast.sent, rfl, Resolution.ordered_start atStart, sameRequests,
      order⟩
  · rw [atStart] at foretold
    rcases foretold with ⟨other, fails⟩
    rw [followed, fails]
    have unfinished : final.progress ≠ .succeeded := by simp [failed]
    refine ⟨⟨fun succeeded => absurd succeeded unfinished, by simp⟩, by simp, fun _ => ?_⟩
    exact ⟨runs.owners_eq unfinished, error, failed⟩

set_option maxRecDepth 100000 in
theorem interleaving_ends_as_sequence_magazine :
    ∃ (log : List Sent) (final : Resolution),
      (Resolution.start (magazine.plan magazineWriter ⟨["as", "at", "as.ns"]⟩) .many
        (magazineStore.records "w")).Runs magazineStore log final ∧
      final.Ended magazineStore ∧
      final.progress = .succeeded ∧
      final.owners = [[("id", .string "w"), ("of", .string "d"),
        ("as", .array [.object [("id", .string "a"), ("by", .string "w"),
          ("ns", .array [.object [("id", .string "n"), ("on", .string "a")]])]]),
        ("at", .object [("id", .string "d")])]] ∧
      log.length = 3 := by
  have resolves : ((magazine.resolve .direct .many magazineWriter (magazineStore.records "w")
      ⟨["as", "at", "as.ns"]⟩).outcome ⟨magazineStore, []⟩).1 =
      .ok [[("id", .string "w"), ("of", .string "d"),
        ("as", .array [.object [("id", .string "a"), ("by", .string "w"),
          ("ns", .array [.object [("id", .string "n"), ("on", .string "a")]])]]),
        ("at", .object [("id", .string "d")])]] := by
    cbv
  have requests : ((magazine.resolve .direct .many magazineWriter (magazineStore.records "w")
      ⟨["as", "at", "as.ns"]⟩).outcome ⟨magazineStore, []⟩).2.store.log.length = 3 := by
    cbv
  rcases Resolution.exists_runs_ended magazineStore (Resolution.start
    (magazine.plan magazineWriter ⟨["as", "at", "as.ns"]⟩) .many (magazineStore.records "w"))
    with ⟨log, final, runs, ended⟩
  rcases (interleaving_ends_as_sequence magazine ⟨magazineStore, []⟩ .many magazineWriter
    (magazineStore.records "w") ⟨["as", "at", "as.ns"]⟩).2.1 log final runs ended with
    ⟨succeeds, succeeded, _⟩
  rcases succeeded _ resolves with ⟨owners, inSequence, logged, _, sameRequests, _⟩
  rw [logged, List.length_append, List.length_map] at requests
  refine ⟨log, final, runs, ended, succeeds.mpr ⟨_, resolves⟩, owners, ?_⟩
  rw [sameRequests.length_eq]
  exact (Nat.zero_add _).symm.trans requests

end RecordGraph
