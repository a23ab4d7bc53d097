import RecordGraph.Adapter

/-!
# Transcripts of sequential loading

An action that loads records in sequence makes requests and ends in one way or the
other.  Both depend on the records and the refusals of the store alone, so that they
are given by a transcript which knows no session; an action follows its transcript
when it does nothing else to the session than log the requests.
-/

namespace RecordGraph

/-! ## Transcripts -/

/-- The requests that an action makes, and how it ends. -/
structure Transcript (α : Type) where
  requests : List Request
  outcome : Except AccessError α

namespace Transcript

variable {α β : Type}

/-- End with a result at once. -/
def ok (result : α) : Transcript α := ⟨[], .ok result⟩

/-- Fail at once. -/
def fail (error : AccessError) : Transcript α := ⟨[], .error error⟩

/-- Go on with the result, unless there is none. -/
def andThen (earlier : Transcript α) (later : α → Transcript β) : Transcript β :=
  match earlier.outcome with
  | .error error => ⟨earlier.requests, .error error⟩
  | .ok result => ⟨earlier.requests ++ (later result).requests, (later result).outcome⟩

theorem andThen_assoc {γ : Type} (first : Transcript α) (second : α → Transcript β)
    (third : β → Transcript γ) :
    (first.andThen second).andThen third =
      first.andThen fun result => (second result).andThen third := by
  unfold andThen
  cases first.outcome with
  | error error => rfl
  | ok result => cases ends : (second result).outcome <;> simp [ends]

theorem outcome_andThen (earlier : Transcript α) (later : α → Transcript β) :
    (earlier.andThen later).outcome =
      earlier.outcome.bind fun result => (later result).outcome := by
  unfold andThen
  cases earlier.outcome <;> rfl

theorem outcome_andThen_eq_ok_iff (earlier : Transcript α) (later : α → Transcript β)
    (result : β) :
    (earlier.andThen later).outcome = .ok result ↔
      ∃ between, earlier.outcome = .ok between ∧ (later between).outcome = .ok result := by
  rw [outcome_andThen]
  cases earlier.outcome with
  | error error => simp [Except.bind]
  | ok between => simp [Except.bind]

end Transcript

/-- How the store replies to a call. -/
def Store.reply {Answer : Type} (store : Store) (call : Call Answer) : Transcript Answer :=
  if call.request.collection ∈ store.unavailable then .fail (.unavailable call.request.collection)
  else ⟨[call.request], .ok (call.answer (store.records call.request.collection))⟩

theorem Store.outcome_reply {Answer : Type} {store : Store} {call : Call Answer}
    (accepted : call.request.collection ∉ store.unavailable) :
    (store.reply call).outcome =
      .ok (call.answer (store.records call.request.collection)) := by
  rw [reply, if_neg accepted]

theorem Store.outcome_reply_eq_ok_iff {Answer : Type} (store : Store) (call : Call Answer)
    (answer : Answer) :
    (store.reply call).outcome = .ok answer ↔
      call.request.collection ∉ store.unavailable ∧
        call.answer (store.records call.request.collection) = answer := by
  unfold reply
  split
  · rename_i refused
    simp [Transcript.fail, refused]
  · rename_i accepted
    simp [accepted]

/-! ## Following a transcript -/

/-- Two stores hold the same records and refuse the same calls. -/
structure Store.Agrees (store other : Store) : Prop where
  collections : store.collections = other.collections
  unavailable : store.unavailable = other.unavailable

/-- Log requests in order. -/
def Session.logged (session : Session) (requests : List Request) : Session :=
  { session with store := { session.store with log := session.store.log ++ requests } }

theorem Session.logged_logged (session : Session) (earlier later : List Request) :
    (session.logged earlier).logged later = session.logged (earlier ++ later) := by
  simp [logged]

theorem Session.logged_nil (session : Session) : session.logged [] = session := by
  simp [logged]

namespace Access

variable {α β : Type}

/-- In every session with a store like the given one, an action makes the requests of
a transcript and ends as it says. -/
def Follows (store : Store) (action : Access α) (transcript : Transcript α) : Prop :=
  ∀ session, session.store.Agrees store →
    action.outcome session = (transcript.outcome, session.logged transcript.requests)

theorem follows_pure (store : Store) (result : α) :
    Follows store (pure result) (.ok result) := by
  intro session _
  rw [Transcript.ok, Session.logged_nil]
  rfl

theorem follows_throw (store : Store) (error : AccessError) :
    Follows store (throw error : Access α) (.fail error) := by
  intro session _
  rw [Transcript.fail, Session.logged_nil]
  rfl

theorem outcome_bind (action : Access α) (next : α → Access β) (session : Session) :
    (action >>= next).outcome session =
      match action.outcome session with
      | (.ok result, after) => (next result).outcome after
      | (.error error, after) => (.error error, after) := by
  show (ExceptT.bind action next) session = _
  simp only [ExceptT.bind, ExceptT.mk, ExceptT.bindCont, bind, StateT.bind, outcome]
  rcases action session with ⟨result | error, after⟩ <;> rfl

theorem follows_bind {store : Store} {action : Access α} {transcript : Transcript α}
    {next : α → Access β} {later : α → Transcript β} (first : Follows store action transcript)
    (second : ∀ result, Follows store (next result) (later result)) :
    Follows store (action >>= next) (transcript.andThen later) := by
  intro session agrees
  have ran := first session agrees
  rw [outcome_bind, ran, Transcript.andThen]
  cases transcript.outcome with
  | error error => rfl
  | ok result =>
      have agreesAfter : (session.logged transcript.requests).store.Agrees store :=
        ⟨agrees.collections, agrees.unavailable⟩
      simp only [second result _ agreesAfter, Session.logged_logged]

theorem follows_perform {Answer : Type} (store : Store) (call : Call Answer) :
    Follows store (perform call) (store.reply call) := by
  intro session agrees
  unfold Store.reply
  by_cases refused : call.request.collection ∈ store.unavailable
  · rw [if_pos refused, Transcript.fail, Session.logged_nil]
    rw [← agrees.unavailable] at refused
    simp [outcome, perform, refused]
  · rw [if_neg refused]
    have sameRecords : store.records call.request.collection =
        session.store.records call.request.collection := by
      rw [Store.records, Store.records, agrees.collections]
    rw [← agrees.unavailable] at refused
    simp [outcome, perform, refused, Store.answer, Session.logged, sameRecords]

theorem follows_map {store : Store} {action : Access α} {transcript : Transcript α}
    (followed : Follows store action transcript) (change : α → β) :
    Follows store (do return change (← action))
      (transcript.andThen fun result => .ok (change result)) :=
  follows_bind followed fun result => follows_pure store (change result)

end Access

/-! ## Loading a plan -/

/-- The related records that a task loads, with everything below them. -/
def Task.related (task : Task) (store : Store)
    (below : Batch → List Document → Transcript (List Document)) : Transcript (List Document) :=
  match task.start with
  | .nothing => .ok []
  | .failure error => .fail error
  | .call call nested => (store.reply call).andThen (below nested)

namespace Plan

/-- Load a level onto its owners; one without owners has nothing to load. -/
def attached (owners : List Document) (gathered : Transcript (List Loaded)) :
    Transcript (List Document) :=
  if owners.isEmpty then .ok owners
  else gathered.andThen fun loaded => .ok (Loaded.attachTo owners loaded)

/-- The transcript of loading the relations of a level one after the other. -/
def gathered (store : Store) (batch : Batch) (owners : List Document) :
    Plan → Transcript (List Loaded)
  | .done => .ok []
  | .unknown target => .fail (.unknownMapper target)
  | .load step below rest =>
      ((step.task batch owners).related store fun nested found =>
          attached found ((below ()).gathered store nested found)).andThen fun related =>
        (rest.gathered store batch owners).andThen fun later =>
          .ok (⟨step.task batch owners, related⟩ :: later)

/-- The transcript of loading everything planned onto the owners. -/
def resolved (plan : Plan) (store : Store) (batch : Batch) (owners : List Document) :
    Transcript (List Document) :=
  attached owners (plan.gathered store batch owners)

theorem follows_level {store : Store} {gathering : Access (List Loaded)}
    {transcript : Transcript (List Loaded)} (owners : List Document)
    (followed : Access.Follows store gathering transcript) :
    Access.Follows store (level owners gathering) (attached owners transcript) := by
  unfold level attached
  split
  · exact Access.follows_pure store owners
  · exact Access.follows_map followed (Loaded.attachTo owners)

theorem follows_gather (store : Store) (batch : Batch) (owners : List Document) (plan : Plan) :
    Access.Follows store (plan.gather batch owners) (plan.gathered store batch owners) := by
  induction plan generalizing batch owners with
  | done => exact Access.follows_pure store []
  | unknown target => exact Access.follows_throw store _
  | load step below rest belowHypothesis restHypothesis =>
      have continued : ∀ {action : Access (List Document)} {transcript : Transcript _},
          Access.Follows store action transcript →
          Access.Follows store
            (do
              let related ← action
              let later ← rest.gather batch owners
              return ⟨step.task batch owners, related⟩ :: later)
            (transcript.andThen fun related =>
              (rest.gathered store batch owners).andThen fun later =>
                .ok (⟨step.task batch owners, related⟩ :: later)) := by
        intro action transcript followed
        apply Access.follows_bind followed
        intro related
        exact Access.follows_map (restHypothesis batch owners) _
      simp only [gather, gathered, Task.related]
      cases (step.task batch owners).start with
      | nothing => exact continued (Access.follows_pure store [])
      | failure error => exact continued (Access.follows_throw store error)
      | call call nested =>
          rw [Transcript.andThen_assoc]
          apply Access.follows_bind (Access.follows_perform store call)
          intro found
          exact continued (follows_level found (belowHypothesis () nested found))

/-- Loading in sequence follows the transcript. -/
theorem follows_resolve (plan : Plan) (store : Store) (batch : Batch) (owners : List Document) :
    Access.Follows store (plan.resolve batch owners) (plan.resolved store batch owners) :=
  follows_level owners (follows_gather store batch owners plan)

end Plan

/-! ## Calls of the adapter -/

namespace Adapter

/-- The plan for the relations that a call asks for. -/
def plan (adapter : Adapter) (mapper : Mapper) (load : EagerLoad) : Plan :=
  .ofMapper adapter.catalog adapter.config mapper load

theorem follows_resolve (adapter : Adapter) (store : Store) (batch : Batch) (mapper : Mapper)
    (owners : List Document) (load : EagerLoad) :
    Access.Follows store (adapter.resolve .direct batch mapper owners load)
      ((adapter.plan mapper load).resolved store batch owners) :=
  Plan.follows_resolve _ store batch owners

theorem mapper_eq_pure {adapter : Adapter} {name : String} {mapper : Mapper}
    (registered : adapter.catalog.get? name = some mapper) :
    adapter.mapper name = pure mapper := by
  simp only [Adapter.mapper, registered]

/-- The filter for the records of an identity. -/
def identityFilter (adapter : Adapter) (mapper : Mapper) (identity : Value) : Document :=
  (Selection.empty.withWhere (mapper.identity adapter.config.defaultIdAttribute) "=="
    identity).filter

end Adapter

theorem Access.Follows.outcome_eq {α : Type} {store : Store} {action : Access α}
    {transcript : Transcript α} (followed : Access.Follows store action transcript)
    {session : Session} (sameStore : session.store = store) :
    (action.outcome session).1 = transcript.outcome :=
  congrArg Prod.fst (followed session ⟨congrArg _ sameStore, congrArg _ sameStore⟩)

/-! ## Failure -/

/-- Tasks that fail at once are those for records that list several owners. -/
theorem Task.unsupported_of_start {task : Task} {error : AccessError}
    (started : task.start = .failure error) :
    ∃ target foreignKeys owners, error = .unsupported target foreignKeys owners := by
  unfold start at started
  split at started <;> try split at started
  all_goals cases started
  exact ⟨_, _, _, rfl⟩

theorem Task.outcome_related_eq_ok_iff (task : Task) (store : Store)
    (below : Batch → List Document → Transcript (List Document)) (related : List Document) :
    (task.related store below).outcome = .ok related ↔
      (task.start = .nothing ∧ related = []) ∨
        ∃ call nested, task.start = .call call nested ∧
          call.request.collection ∉ store.unavailable ∧
          (below nested (call.answer (store.records call.request.collection))).outcome =
            .ok related := by
  unfold Task.related
  cases task.start with
  | nothing => simp [Transcript.ok, eq_comm]
  | failure error => simp [Transcript.fail]
  | call call nested =>
      simp only [Transcript.outcome_andThen_eq_ok_iff, Store.outcome_reply_eq_ok_iff]
      constructor
      · intro loads
        obtain ⟨found, ⟨accepted, rfl⟩, loaded⟩ := loads
        exact Or.inr ⟨call, nested, rfl, accepted, loaded⟩
      · intro loads
        rcases loads with ⟨impossible, _⟩ | ⟨_, _, sameStart, accepted, loaded⟩
        · cases impossible
        · cases sameStart
          exact ⟨_, ⟨accepted, rfl⟩, loaded⟩

namespace Plan

theorem outcome_gathered_load_eq_ok_iff (store : Store) (batch : Batch)
    (owners : List Document) (step : Step) (below : Unit → Plan) (rest : Plan)
    (loaded : List Loaded) :
    ((load step below rest).gathered store batch owners).outcome = .ok loaded ↔
      ∃ related later,
        ((step.task batch owners).related store fun nested found =>
          (below ()).resolved store nested found).outcome = .ok related ∧
        (rest.gathered store batch owners).outcome = .ok later ∧
        loaded = ⟨step.task batch owners, related⟩ :: later := by
  simp only [gathered, resolved, Transcript.outcome_andThen_eq_ok_iff, Transcript.ok,
    Except.ok.injEq]
  constructor
  · intro loads
    obtain ⟨related, loadedRelated, later, loadedLater, rfl⟩ := loads
    exact ⟨related, later, loadedRelated, loadedLater, rfl⟩
  · intro loads
    obtain ⟨related, later, loadedRelated, loadedLater, rfl⟩ := loads
    exact ⟨related, loadedRelated, later, loadedLater, rfl⟩

theorem outcome_resolved_nil (plan : Plan) (store : Store) (batch : Batch) :
    (plan.resolved store batch []).outcome = .ok [] := rfl

theorem outcome_resolved_done (store : Store) (batch : Batch) (owners : List Document) :
    (done.resolved store batch owners).outcome = .ok owners := by
  unfold resolved attached
  split <;> rfl

theorem outcome_resolved_eq_ok_iff (plan : Plan) (store : Store) (batch : Batch)
    {owners : List Document} (nonempty : owners ≠ []) (result : List Document) :
    (plan.resolved store batch owners).outcome = .ok result ↔
      ∃ loaded, (plan.gathered store batch owners).outcome = .ok loaded ∧
        result = Loaded.attachTo owners loaded := by
  have notEmpty : owners.isEmpty = false := by
    rw [List.isEmpty_eq_false_iff]
    exact nonempty
  simp only [resolved, attached, notEmpty, Bool.false_eq_true, if_false,
    Transcript.outcome_andThen_eq_ok_iff, Transcript.ok, Except.ok.injEq, eq_comm (a := result)]

end Plan

end RecordGraph
