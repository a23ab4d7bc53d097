import Mathlib
import RecordGraph.Proofs.EagerEntries
import RecordGraph.Proofs.Transcript

/-!
# What calls leave alone

No call of an adapter does anything else to the store than log its requests, and loading
that fails leaves the records at hand as they were: they change after the last point at
which their level can fail, and the levels below work on records of their own.
-/

namespace RecordGraph

/-! ## Stores that have logged requests -/

/-- All that has happened to a store is that it logged requests. -/
def Store.HasLogged (before after : Store) : Prop :=
  ∃ requests, after = { before with log := before.log ++ requests }

theorem Store.HasLogged.refl (store : Store) : store.HasLogged store :=
  ⟨[], by simp⟩

theorem Store.HasLogged.trans {first second third : Store} (earlier : first.HasLogged second)
    (later : second.HasLogged third) : first.HasLogged third := by
  rcases earlier with ⟨requests, rfl⟩
  rcases later with ⟨further, rfl⟩
  exact ⟨requests ++ further, by simp⟩

theorem Session.hasLogged_write (session : Session) (entry : Entry) :
    session.store.HasLogged (session.write entry).store := by
  cases entry with
  | event event => exact .refl _
  | request request => exact ⟨[request], rfl⟩

theorem Session.hasLogged_writeAll (session : Session) (entries : List Entry) :
    session.store.HasLogged (session.writeAll entries).store := by
  induction entries generalizing session with
  | nil => exact .refl _
  | cons entry rest inductionHypothesis =>
      exact (session.hasLogged_write entry).trans (inductionHypothesis (session.write entry))

/-! ## Actions that only log -/

namespace Access

variable {α β : Type}

/-- Whatever comes of an action, the store has only logged requests after it. -/
def OnlyLogs (action : Access α) : Prop :=
  ∀ session : Session, session.store.HasLogged (action.outcome session).2.store

theorem onlyLogs_pure (result : α) : OnlyLogs (pure result) :=
  fun session => .refl session.store

theorem onlyLogs_throw (error : AccessError) : OnlyLogs (throw error : Access α) :=
  fun session => .refl session.store

theorem onlyLogs_bind {action : Access α} {next : α → Access β} (first : OnlyLogs action)
    (second : ∀ result, OnlyLogs (next result)) : OnlyLogs (action >>= next) := by
  intro session
  have logged := first session
  rw [outcome_bind]
  rcases ran : action.outcome session with ⟨outcome, after⟩
  rw [ran] at logged
  cases outcome with
  | error error => exact logged
  | ok result => exact logged.trans (second result after)

theorem onlyLogs_perform {Answer : Type} (call : Call Answer) : OnlyLogs (perform call) := by
  intro session
  by_cases refused : call.request.collection ∈ session.store.unavailable
  · rw [outcome, perform, if_pos refused]
    exact .refl _
  · rw [outcome, perform, if_neg refused]
    exact ⟨[call.request], rfl⟩

theorem onlyLogs_note (event : Event) : OnlyLogs (note event) :=
  fun session => session.hasLogged_write (.event event)

theorem onlyLogs_call {Answer : Type} (pace : Pace) (call : Call Answer) :
    OnlyLogs (Access.call pace call) := by
  cases pace with
  | direct => exact onlyLogs_perform call
  | interleaved =>
      apply onlyLogs_bind (onlyLogs_note _)
      intro _
      exact onlyLogs_bind (onlyLogs_note _) fun _ => onlyLogs_perform call

end Access

theorem Process.onlyLogs_complete {α : Type} (process : Process α) :
    Access.OnlyLogs process.complete := by
  induction process with
  | done entries outcome => exact fun session => session.hasLogged_writeAll entries
  | pause entries next inductionHypothesis =>
      intro session
      have resumed := inductionHypothesis () (session.writeAll entries)
      exact (session.hasLogged_writeAll entries).trans resumed

theorem Process.outcome_complete_map {α β : Type} (change : α → β) (process : Process α)
    (session : Session) :
    (process.map change).complete.outcome session =
      ((process.complete.outcome session).1.map change,
        (process.complete.outcome session).2) := by
  induction process generalizing session with
  | done entries outcome => rfl
  | pause entries next inductionHypothesis => exact inductionHypothesis () _

/-! ## Updating records -/

namespace Update

variable {α β : Type}

theorem outcome_bind (action : Update α) (next : α → Update β) (records : List Document)
    (session : Session) :
    (action >>= next).outcome records session =
      match action.outcome records session with
      | (.ok result, changed, after) => (next result).outcome changed after
      | (.error error, changed, after) => (.error error, changed, after) := by
  show (ExceptT.bind action next) (records, session) = _
  simp only [ExceptT.bind, ExceptT.mk, ExceptT.bindCont, bind, StateT.bind, outcome]
  rcases action (records, session) with ⟨result | error, changed, after⟩ <;> rfl

theorem outcome_access (action : Access α) (records : List Document) (session : Session) :
    (access action).outcome records session =
      ((action.outcome session).1, records, (action.outcome session).2) := rfl

theorem outcome_forM_attach (loaded : List Loaded) (records : List Document)
    (session : Session) :
    (loaded.forM attach : Update Unit).outcome records session =
      (.ok (), Loaded.attachTo records loaded, session) := by
  induction loaded generalizing records with
  | nil => rfl
  | cons found rest inductionHypothesis => exact inductionHypothesis _

end Update

namespace Plan

/-- An update attaches to the records of a level what was loaded for them, and has nothing
left to do that could fail by then. -/
theorem outcome_update (plan : Plan) (pace : Pace) (batch : Batch) (owners : List Document)
    (session : Session) :
    (plan.update pace batch).outcome owners session =
      if owners.isEmpty then (.ok (), owners, session)
      else
        match (plan.loading pace batch owners).outcome session with
        | (.ok loaded, after) => (.ok (), Loaded.attachTo owners loaded, after)
        | (.error error, after) => (.error error, owners, after) := by
  rw [update, Update.outcome_bind]
  -- The owners are read once, before anything is loaded.
  show Update.outcome (unless owners.isEmpty do _) owners session = _
  by_cases empty : owners.isEmpty
  · rw [if_pos empty, if_pos empty]
    rfl
  · rw [if_neg empty, if_neg empty, Update.outcome_bind, Update.outcome_access]
    rcases (plan.loading pace batch owners).outcome session with ⟨error | loaded, after⟩
    · rfl
    · exact Update.outcome_forM_attach loaded owners after

theorem owners_eq_of_update_fails {plan : Plan} {pace : Pace} {batch : Batch}
    {owners : List Document} {session : Session} {error : AccessError}
    (fails : ((plan.update pace batch).outcome owners session).1 = .error error) :
    ((plan.update pace batch).outcome owners session).2.1 = owners := by
  rw [outcome_update] at fails ⊢
  by_cases empty : owners.isEmpty
  · rw [if_pos empty]
  · rw [if_neg empty] at fails ⊢
    rcases ended : (plan.loading pace batch owners).outcome session with ⟨error | loaded, after⟩
    · rfl
    · rw [ended] at fails
      cases fails

theorem onlyLogs_loading (plan : Plan) (pace : Pace) (batch : Batch) (owners : List Document) :
    (plan.loading pace batch owners).OnlyLogs := by
  cases pace with
  | direct =>
      intro session
      have followed := follows_gather session.store batch owners plan session ⟨rfl, rfl⟩
      rw [loading, followed]
      exact ⟨_, rfl⟩
  | interleaved => exact fun session => Process.onlyLogs_complete _ session

theorem hasLogged_update (plan : Plan) (pace : Pace) (batch : Batch) (owners : List Document)
    (session : Session) :
    session.store.HasLogged ((plan.update pace batch).outcome owners session).2.2.store := by
  have logged := plan.onlyLogs_loading pace batch owners session
  rw [outcome_update]
  by_cases empty : owners.isEmpty
  · rw [if_pos empty]
    exact .refl _
  · rw [if_neg empty]
    rcases ended : (plan.loading pace batch owners).outcome session with ⟨error | loaded, after⟩
    all_goals
      rw [ended] at logged
      exact logged

/-! ## Levels of their own -/

/-- The records that a level below is entered with are updated like those at hand. -/
theorem onto_update_direct (plan : Plan) (batch : Batch) (owners : List Document) :
    Update.onto owners (plan.update .direct batch) = plan.resolve batch owners := by
  funext session
  rw [Update.onto, outcome_update, resolve, level]
  by_cases empty : owners.isEmpty
  · rw [if_pos empty, if_pos empty]
    rfl
  · rw [if_neg empty, if_neg empty]
    show _ = Access.outcome _ session
    rw [Access.outcome_bind, loading]
    rcases (plan.gather batch owners).outcome session with ⟨error | loaded, after⟩ <;> rfl

theorem onto_update_interleaved (plan : Plan) (batch : Batch) (owners : List Document) :
    Update.onto owners (plan.update .interleaved batch) = plan.resolveInterleaved batch owners := by
  funext session
  rw [Update.onto, outcome_update, resolveInterleaved, levelProcess]
  by_cases empty : owners.isEmpty
  · rw [if_pos empty, if_pos empty]
    rfl
  · rw [if_neg empty, if_neg empty]
    show _ = Access.outcome _ session
    rw [Process.outcome_complete_map]
    show _ = (((plan.loading .interleaved batch owners).outcome session).1.map
        (Loaded.attachTo owners),
      ((plan.loading .interleaved batch owners).outcome session).2)
    rcases (plan.loading .interleaved batch owners).outcome session with
      ⟨error | loaded, after⟩ <;> rfl

end Plan

namespace Adapter

variable (adapter : Adapter) (pace : Pace)

/-- Resolving records gives what becomes of them when they are updated. -/
theorem onto_update (batch : Batch) (mapper : Mapper) (owners : List Document)
    (load : EagerLoad) :
    Update.onto owners (adapter.update pace batch mapper load) =
      adapter.resolve pace batch mapper owners load := by
  cases pace with
  | direct => exact Plan.onto_update_direct _ batch owners
  | interleaved => exact Plan.onto_update_interleaved _ batch owners

theorem onlyLogs_resolve (batch : Batch) (mapper : Mapper) (owners : List Document)
    (load : EagerLoad) : (adapter.resolve pace batch mapper owners load).OnlyLogs := by
  intro session
  have logged := (adapter.plan mapper load).hasLogged_update pace batch owners session
  rw [← adapter.onto_update]
  show session.store.HasLogged
    (Update.onto owners ((adapter.plan mapper load).update pace batch) session).2.store
  unfold Update.onto
  rcases ended : ((adapter.plan mapper load).update pace batch).outcome owners session with
    ⟨error | done, changed, after⟩
  all_goals
    rw [ended] at logged
    exact logged

theorem onlyLogs_mapper (name : String) : (adapter.mapper name).OnlyLogs := by
  unfold Adapter.mapper
  cases adapter.catalog.get? name with
  | none => exact Access.onlyLogs_throw _
  | some found => exact Access.onlyLogs_pure found

theorem onlyLogs_resolveOne (mapper : Mapper) (owner : Document) (load : EagerLoad) :
    (adapter.resolveOne pace mapper owner load).OnlyLogs :=
  Access.onlyLogs_bind (adapter.onlyLogs_resolve pace .single mapper [owner] load)
    fun _ => Access.onlyLogs_pure _

theorem onlyLogs_find (name : String) (identity : Value) (options : FindOptions) :
    (adapter.find pace name identity options).OnlyLogs := by
  apply Access.onlyLogs_bind (adapter.onlyLogs_mapper name)
  intro mapper
  apply Access.onlyLogs_bind (Access.onlyLogs_call pace _)
  intro found
  cases found with
  | none => exact Access.onlyLogs_throw _
  | some record => exact adapter.onlyLogs_resolveOne pace mapper record options.load

theorem onlyLogs_findAll (name : String) (selection : Selection) (options : FindOptions) :
    (adapter.findAll pace name selection options).OnlyLogs := by
  apply Access.onlyLogs_bind (adapter.onlyLogs_mapper name)
  intro mapper
  apply Access.onlyLogs_bind (Access.onlyLogs_call pace _)
  intro records
  exact adapter.onlyLogs_resolve pace .many mapper records options.load

theorem onlyLogs_count (name : String) (selection : Selection) (options : FindOptions) :
    (adapter.count pace name selection options).OnlyLogs := by
  apply Access.onlyLogs_bind (adapter.onlyLogs_mapper name)
  intro mapper
  exact Access.onlyLogs_call pace _

/-- Records that are updated in vain stay what they were, updating is what resolving does to
the records it is given, and whatever is called and however it ends, the store only logs
requests. -/
theorem calls_leave_alone :
    (∀ (batch : Batch) (mapper : Mapper) (load : EagerLoad) (owners changed : List Document)
      (session after : Session) (error : AccessError),
      (adapter.update pace batch mapper load).outcome owners session =
          (.error error, changed, after) →
        changed = owners) ∧
      (∀ (batch : Batch) (mapper : Mapper) (load : EagerLoad) (owners : List Document),
        Update.onto owners (adapter.update pace batch mapper load) =
          adapter.resolve pace batch mapper owners load) ∧
      (∀ (batch : Batch) (mapper : Mapper) (load : EagerLoad) (owners : List Document)
        (session : Session),
        session.store.HasLogged
          ((adapter.update pace batch mapper load).outcome owners session).2.2.store) ∧
      (∀ (mapper : Mapper) (owner : Document) (load : EagerLoad),
        (adapter.resolveOne pace mapper owner load).OnlyLogs) ∧
      (∀ (mapper : Mapper) (owners : List Document) (load : EagerLoad),
        (adapter.resolveMany pace mapper owners load).OnlyLogs) ∧
      (∀ (name : String) (identity : Value) (options : FindOptions),
        (adapter.find pace name identity options).OnlyLogs) ∧
      (∀ (name : String) (selection : Selection) (options : FindOptions),
        (adapter.findAll pace name selection options).OnlyLogs) ∧
      ∀ (name : String) (selection : Selection) (options : FindOptions),
        (adapter.count pace name selection options).OnlyLogs := by
  refine ⟨?failed, ?same, ?updated, adapter.onlyLogs_resolveOne pace, ?resolved,
    adapter.onlyLogs_find pace, adapter.onlyLogs_findAll pace, adapter.onlyLogs_count pace⟩
  case failed =>
    intro batch mapper load owners changed session after error fails
    have unchanged := Plan.owners_eq_of_update_fails (congrArg Prod.fst fails)
    rw [← unchanged]
    exact (congrArg (fun ended => ended.2.1) fails).symm
  case same =>
    intro batch mapper load owners
    exact adapter.onto_update pace batch mapper owners load
  case updated =>
    intro batch mapper load owners session
    exact (adapter.plan mapper load).hasLogged_update pace batch owners session
  case resolved =>
    intro mapper owners load
    exact adapter.onlyLogs_resolve pace .many mapper owners load

end Adapter

set_option maxRecDepth 100000 in
theorem calls_leave_alone_magazine :
    ∃ after : Session,
      (magazine.update .direct .many magazineWriter ⟨["as", "at", "as.ns"]⟩).outcome
          (magazineStore.records "w") ⟨{ magazineStore with unavailable := ["d"] }, []⟩ =
        (.error (.unavailable "d"), magazineStore.records "w", after) ∧
      after.store.log.map Request.collection = ["a", "n"] := by
  have fails : ((magazine.update .direct .many magazineWriter ⟨["as", "at", "as.ns"]⟩).outcome
      (magazineStore.records "w") ⟨{ magazineStore with unavailable := ["d"] }, []⟩).1 =
        .error (.unavailable "d") := by
    cbv
  have requests : ((magazine.update .direct .many magazineWriter ⟨["as", "at", "as.ns"]⟩).outcome
      (magazineStore.records "w") ⟨{ magazineStore with unavailable := ["d"] },
        []⟩).2.2.store.log.map Request.collection = ["a", "n"] := by
    cbv
  have unchanged := (Adapter.calls_leave_alone magazine .direct).1 .many magazineWriter
    ⟨["as", "at", "as.ns"]⟩ (magazineStore.records "w") _
    ⟨{ magazineStore with unavailable := ["d"] }, []⟩ _ (.unavailable "d") (Prod.ext fails rfl)
  exact ⟨_, Prod.ext fails (Prod.ext unchanged rfl), requests⟩

end RecordGraph
