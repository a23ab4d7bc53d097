import RecordGraph.Proofs.SingleOwner

/-!
# The levels of a call

A call of the adapter opens a level of loading for the records that it is about, and
each relation that is loaded there enters a level for the records that it finds.  All
owners on all levels but the first are stored records, and a level that serves its
owners one by one has no more than one.
-/

namespace RecordGraph

/-! ## What tasks find -/

namespace Task

/-- A call reads one collection and answers with all or with the first of the records that
satisfy a filter. -/
def Reads (task : Task) (call : Call (List Document)) (nested : Batch) : Prop :=
  call.request.collection = task.collection ∧ ∃ filter : Document,
    (nested = .many ∧ ∀ records, call.answer records = records.filter (satisfies · filter)) ∨
      (nested = .single ∧ ∀ records,
        call.answer records = (records.filter (satisfies · filter)).head?.toList)

theorem reads_of_listCall {task : Task} {operator : Operator} {token : String}
    (plain : Comparator.ofToken? token = some ⟨operator, false⟩) {field : String}
    {operand : Value} {call : Call (List Document)} {nested : Batch}
    (started : task.listCall field token operand = .call call nested) :
    task.Reads call nested := by
  cases started
  exact ⟨rfl, _, Or.inl ⟨rfl, Call.answer_fetch_criterion plain _ field operand⟩⟩

theorem reads_of_pointCall {task : Task} {field : String} {operand : Value}
    {call : Call (List Document)} {nested : Batch}
    (started : task.pointCall field operand = .call call nested) : task.Reads call nested := by
  cases started
  refine ⟨rfl, (criterion field "==" operand).filter, Or.inr ⟨rfl, ?_⟩⟩
  intro records
  exact congrArg Option.toList Option.map_id'

theorem reads_of_start {task : Task} {call : Call (List Document)} {nested : Batch}
    (started : task.start = .call call nested) : task.Reads call nested := by
  have equality : Comparator.ofToken? "==" = some ⟨.equal, false⟩ := by decide
  have member : Comparator.ofToken? "in" = some ⟨.member, false⟩ := by decide
  have contains : Comparator.ofToken? "contains" = some ⟨.equal, false⟩ := by decide
  unfold start at started
  split at started
  · split at started
    · exact reads_of_pointCall started
    · cases started
  · exact reads_of_listCall member started
  · exact reads_of_listCall equality started
  · exact reads_of_listCall member started
  · exact reads_of_listCall equality started
  · exact reads_of_listCall member started
  · exact reads_of_listCall member started
  · split at started
    · cases started
    · exact reads_of_listCall contains started

end Task

/-! ## Levels -/

/-- What is to be loaded, and onto which owners. -/
structure Level where
  plan : Plan
  batch : Batch
  owners : List Document

/-- A plan loads a step, and below it another plan. -/
inductive Plan.Contains : Plan → Step → Plan → Prop
  | here (step : Step) (below : Unit → Plan) (rest : Plan) :
      Contains (.load step below rest) step (below ())
  | later {first step : Step} {below : Unit → Plan} {rest nested : Plan} :
      Contains rest step nested → Contains (.load first below rest) step nested

/-- Loading on one level leads to another one: the records that the call of a step finds
are the owners on the level below it.  Nothing is loaded where there are no owners. -/
inductive Level.Enters (store : Store) (root : Level) : Level → Prop
  | start : Enters store root root
  | deeper {level : Level} {step : Step} {plan : Plan} {call : Call (List Document)}
      {nested : Batch} :
      Enters store root level → level.owners ≠ [] → level.plan.Contains step plan →
      (step.task level.batch level.owners).start = .call call nested →
      Enters store root
        ⟨plan, nested, call.answer (store.records call.request.collection)⟩

/-- Everything planned for a level is loaded onto its owners. -/
def Level.Resolves (level : Level) (store : Store) : Prop :=
  ∃ resolved, (level.plan.resolved store level.batch level.owners).outcome = .ok resolved

theorem Plan.Contains.resolves {plan nestedPlan : Plan} {step : Step}
    (contained : plan.Contains step nestedPlan) {store : Store} {batch : Batch}
    {owners : List Document} {loaded : List Loaded}
    (gathers : (plan.gathered store batch owners).outcome = .ok loaded)
    {call : Call (List Document)} {nested : Batch}
    (started : (step.task batch owners).start = .call call nested) :
    Level.Resolves ⟨nestedPlan, nested, call.answer (store.records call.request.collection)⟩
      store := by
  induction contained generalizing loaded with
  | here step below rest =>
      obtain ⟨related, _, loads, _, _⟩ :=
        (outcome_gathered_load_eq_ok_iff store batch owners step below rest loaded).mp gathers
      rw [Task.outcome_related_eq_ok_iff, started] at loads
      rcases loads with ⟨impossible, _⟩ | ⟨_, _, sameStart, _, resolved⟩
      · cases impossible
      · cases sameStart
        exact ⟨related, resolved⟩
  | later _ inductionHypothesis =>
      obtain ⟨_, later, _, gathersLater, _⟩ :=
        (outcome_gathered_load_eq_ok_iff store batch owners _ _ _ loaded).mp gathers
      exact inductionHypothesis gathersLater started

/-- If a level is loaded, all levels that are entered from it are. -/
theorem Level.Enters.resolves {store : Store} {root level : Level}
    (entered : root.Enters store level) (rootResolves : root.Resolves store) :
    level.Resolves store := by
  induction entered with
  | start => exact rootResolves
  | deeper _ nonempty contained started inductionHypothesis =>
      obtain ⟨resolved, resolves⟩ := inductionHypothesis
      obtain ⟨loaded, gathers, _⟩ :=
        (Plan.outcome_resolved_eq_ok_iff _ store _ nonempty resolved).mp resolves
      exact contained.resolves gathers started

/-- Owners are well-formed, and there are no several of them where each is served on its
own. -/
structure Level.Sound (level : Level) : Prop where
  formed : ∀ owner ∈ level.owners, owner.WellFormed
  alone : level.batch = .single → level.owners.length ≤ 1

theorem Level.sound_below {store : Store} (storeFormed : store.WellFormed) {level : Level}
    {step : Step} {call : Call (List Document)} {nested : Batch} (plan : Plan)
    (started : (step.task level.batch level.owners).start = .call call nested) :
    Level.Sound ⟨plan, nested, call.answer (store.records call.request.collection)⟩ := by
  obtain ⟨_, filter, ⟨isMany, answers⟩ | ⟨isSingle, answers⟩⟩ := Task.reads_of_start started
  · constructor
    · intro owner member
      rw [answers] at member
      exact storeFormed _ owner (List.mem_of_mem_filter member)
    · intro isSingle
      rw [isMany] at isSingle
      cases isSingle
  · constructor
    · intro owner member
      rw [answers] at member
      have first := List.mem_of_head? (Option.mem_toList.mp member)
      exact storeFormed _ owner (List.mem_of_mem_filter first)
    · intro _
      rw [answers]
      cases (List.filter _ _ : List Document).head? <;> simp

/-- Every level that is entered from a sound one is sound. -/
theorem Level.Enters.sound {store : Store} (storeFormed : store.WellFormed)
    {root level : Level} (entered : root.Enters store level) (rootSound : root.Sound) :
    level.Sound := by
  induction entered with
  | start => exact rootSound
  | deeper _ _ _ started _ => exact Level.sound_below storeFormed _ started

/-! ## Opening a level -/

/-- A call that succeeds opens a level for the owners that it was given or has read. -/
inductive Adapter.Opens (adapter : Adapter) (session : Session) : Level → Prop
  | resolveMany {mapper : Mapper} {owners resolved : List Document} {load : EagerLoad} :
      (∀ owner ∈ owners, owner.WellFormed) →
      ((adapter.resolveMany .direct mapper owners load).outcome session).1 = .ok resolved →
      Opens adapter session ⟨adapter.plan mapper load, .many, owners⟩
  | resolveOne {mapper : Mapper} {owner resolved : Document} {load : EagerLoad} :
      owner.WellFormed →
      ((adapter.resolveOne .direct mapper owner load).outcome session).1 = .ok resolved →
      Opens adapter session ⟨adapter.plan mapper load, .single, [owner]⟩
  | find {name : String} {mapper : Mapper} {identity : Value} {options : FindOptions}
      {record resolved : Document} :
      adapter.catalog.get? name = some mapper →
      adapter.identified session.store mapper identity options = some record →
      ((adapter.find .direct name identity options).outcome session).1 = .ok resolved →
      Opens adapter session ⟨adapter.plan mapper options.load, .single, [record]⟩
  | findAll {name : String} {mapper : Mapper} {selection : Selection} {options : FindOptions}
      {resolved : List Document} :
      adapter.catalog.get? name = some mapper →
      ((adapter.findAll .direct name selection options).outcome session).1 = .ok resolved →
      Opens adapter session ⟨adapter.plan mapper options.load, .many,
        (Call.fetch (mapper.collectionName options.collection) selection.compile
          options.projection).answer
            (session.store.records (mapper.collectionName options.collection))⟩

theorem Document.WellFormed.project {record : Document} (formed : record.WellFormed)
    (projection : Option Document) : (RecordGraph.project projection record).WellFormed := by
  have filtered : ∀ keeps : String × Value → Bool,
      Document.WellFormed (record.filter keeps) := by
    intro keeps
    obtain ⟨unique, entriesFormed⟩ := formed
    refine ⟨unique.sublist (List.filter_sublist.map Prod.fst), ?_⟩
    rw [Value.wellFormedEntries_iff] at entriesFormed ⊢
    intro entry member
    exact entriesFormed entry (List.mem_of_mem_filter member)
  unfold RecordGraph.project
  split
  · exact formed
  · split
    · exact formed
    · exact filtered _

theorem arrange_subset (options : QueryOptions) (records : List Document) :
    arrange options records ⊆ records := by
  have sorted : sortRecords options.sortKeys records ⊆ records :=
    (List.mergeSort_perm records _).subset
  unfold arrange slice
  intro record member
  apply sorted
  split at member
  · exact List.mem_of_mem_drop (List.mem_of_mem_take member)
  · exact List.mem_of_mem_drop member

/-- Levels that calls open are sound. -/
theorem Adapter.Opens.sound {adapter : Adapter} {session : Session} {level : Level}
    (opened : adapter.Opens session level) (storeFormed : session.store.WellFormed) :
    level.Sound := by
  cases opened with
  | resolveMany formed _ =>
      exact ⟨formed, by simp⟩
  | resolveOne formed _ =>
      exact ⟨by simpa using formed, fun _ => le_rfl⟩
  | find _ found _ =>
      refine ⟨?_, fun _ => le_rfl⟩
      intro owner member
      obtain rfl := List.mem_singleton.mp member
      obtain ⟨stored, first, rfl⟩ := Option.map_eq_some_iff.mp found
      have isStored := List.mem_of_mem_filter (List.mem_of_head? first)
      exact (storeFormed _ stored isStored).project _
  | findAll _ _ =>
      refine ⟨?_, by simp⟩
      intro owner member
      obtain ⟨stored, arranged, rfl⟩ := List.mem_map.mp member
      have isStored := List.mem_of_mem_filter (arrange_subset _ _ arranged)
      exact (storeFormed _ stored isStored).project _

end RecordGraph
