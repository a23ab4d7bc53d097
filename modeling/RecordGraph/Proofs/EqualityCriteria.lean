import RecordGraph.Proofs.Clobbering
import RecordGraph.Proofs.InterleavingOutcome
import RecordGraph.Proofs.ReadOnly
import RecordGraph.Proofs.SingleOwner

/-!
# Equality criteria

A criterion that asks a field to equal an operand becomes the condition that is the operand
itself.  The store reads it as the operand unless it has the looks of native operators, or
the field has the name of the group of alternatives; there is no way to tell such operands
from native conditions.
-/

namespace RecordGraph

/-! ## What a criterion asks for -/

/-- The query with one criterion, that a field equal an operand. -/
def Selection.equality (field : String) (operand : Value) : Selection :=
  ⟨[("where", .object [(field, .object [("==", operand)])])]⟩

theorem Selection.filter_equality (field : String) (operand : Value) :
    (equality field operand).filter = [(field, operand)] := by
  have plain : Comparator.ofToken? "==" = some ⟨.equal, false⟩ := by decide
  exact Task.filter_criterion plain field operand

theorem satisfiesGroup_iff (record : Document) (condition : Value) :
    satisfiesGroup record condition = true ↔
      ∃ terms filter, condition = .array terms ∧ .object filter ∈ terms ∧
        satisfies record filter = true := by
  cases condition with
  | array terms =>
      rw [satisfiesGroup, satisfiesSome_iff]
      constructor
      · rintro ⟨term, member, satisfied⟩
        cases term with
        | object filter => exact ⟨terms, filter, rfl, member, satisfied⟩
        | _ => cases satisfied
      · rintro ⟨_, filter, same, member, satisfied⟩
        cases same
        exact ⟨_, member, satisfied⟩
  | _ => simp [satisfiesGroup]

theorem satisfies_operators_iff {field : String} (noGroup : field ≠ alternativesKey)
    {operators : Document} (marked : isOperatorDocument operators = true) (record : Document) :
    satisfies record [(field, .object operators)] = true ↔
      ∀ entry ∈ operators, satisfiesOperator (record.read? field) entry.1 entry.2 = true := by
  rw [satisfies_single, if_neg noGroup, satisfiesCondition, if_pos marked, List.all_eq_true]

/-! ## Finding by identity -/

theorem Plan.outcome_resolved_congr {store other : Store} (agrees : store.Agrees other)
    (plan : Plan) (batch : Batch) (owners : List Document) :
    (plan.resolved store batch owners).outcome = (plan.resolved other batch owners).outcome := by
  have here := plan.follows_resolve store batch owners ⟨store, []⟩ ⟨rfl, rfl⟩
  have there := plan.follows_resolve other batch owners ⟨store, []⟩ agrees
  exact congrArg Prod.fst (here.symm.trans there)

theorem Store.HasLogged.agrees {before after : Store} (logged : before.HasLogged after) :
    after.Agrees before := by
  rcases logged with ⟨requests, rfl⟩
  exact ⟨rfl, rfl⟩

/-- Whichever way a call completes, it ends with the reply of the store. -/
theorem Access.outcome_call {Answer : Type} (pace : Pace) (call : Call Answer)
    (session : Session) :
    ((Access.call pace call).outcome session).1 = (session.store.reply call).outcome := by
  cases pace with
  | direct => exact (follows_perform session.store call).outcome_eq rfl
  | interleaved =>
      have noted : (start call).outcome session =
          (.ok (), session.write (.event (.start call.request.collection))) := rfl
      rw [Access.call, outcome_bind, noted]
      simp only
      rw [run_eq_attempt]
      have sameStore : (session.write (.event (.start call.request.collection))).store =
          session.store := rfl
      rw [sameStore, Store.attempt, Store.reply]
      split <;> rfl

/-- What follows a call gets the answer of the store, which has only logged the request. -/
theorem Access.outcome_call_bind {Answer Result : Type} (pace : Pace) (call : Call Answer)
    {collection : String} (targets : call.request.collection = collection)
    (next : Answer → Access Result) (session : Session) :
    ∃ after : Session, session.store.HasLogged after.store ∧
      ((Access.call pace call >>= next).outcome session).1 =
        if collection ∈ session.store.unavailable then .error (.unavailable collection)
        else ((next (call.answer (session.store.records collection))).outcome after).1 := by
  have replied := outcome_call pace call session
  have logged := onlyLogs_call pace call session
  rw [outcome_bind]
  rcases called : (Access.call pace call).outcome session with ⟨answered, after⟩
  rw [called] at replied logged
  refine ⟨after, logged, ?_⟩
  obtain rfl : answered = (session.store.reply call).outcome := replied
  rw [← targets]
  by_cases refused : call.request.collection ∈ session.store.unavailable
  · rw [if_pos refused, Store.reply, if_pos refused]
    rfl
  · rw [if_neg refused, Store.outcome_reply refused]

namespace Adapter

variable {adapter : Adapter} {name : String} {mapper : Mapper} {pace : Pace} {session : Session}
  {identity : Value} {options : FindOptions} {found : Document}

theorem outcome_resolveOne_eq_ok_iff (adapter : Adapter) (pace : Pace) (session : Session)
    (mapper : Mapper) (owner : Document) (load : EagerLoad) (resolved : Document) :
    ((adapter.resolveOne pace mapper owner load).outcome session).1 = .ok resolved ↔
      ((adapter.plan mapper load).resolved session.store .single [owner]).outcome =
        .ok [resolved] := by
  rw [resolveOne, Access.outcome_bind, ← adapter.outcome_resolve_eq_ok_iff pace]
  rcases resolving : (adapter.resolve pace .single mapper [owner] load).outcome session with
    ⟨result, last⟩
  cases result with
  | error error =>
      constructor <;> intro impossible <;> cases impossible
  | ok all =>
      have resolves : ((adapter.plan mapper load).resolved session.store .single
          [owner]).outcome = .ok all := by
        rw [← adapter.outcome_resolve_eq_ok_iff pace, resolving]
      rcases List.length_eq_one_iff.mp (Plan.length_resolved resolves) with ⟨only, rfl⟩
      show Except.ok only = Except.ok resolved ↔ Except.ok [only] = Except.ok [resolved]
      simp

/-- A call for an identity resolves the record that the store answers with. -/
theorem outcome_find_after (pace : Pace) (registered : adapter.catalog.get? name = some mapper)
    (session : Session) (identity : Value) (options : FindOptions) :
    ∃ after : Session, session.store.HasLogged after.store ∧
      ((adapter.find pace name identity options).outcome session).1 =
        if mapper.collectionName options.collection ∈ session.store.unavailable then
          .error (.unavailable (mapper.collectionName options.collection))
        else
          match adapter.identified session.store mapper identity options with
          | none => .error (.notFound (mapper.collectionName options.collection) identity)
          | some record => ((adapter.resolveOne pace mapper record options.load).outcome after).1 := by
  have targets : (Call.fetchOne (mapper.collectionName options.collection)
      (adapter.identityFilter mapper identity) options.projection).request.collection =
        mapper.collectionName options.collection := rfl
  obtain ⟨after, logged, answered⟩ := Access.outcome_call_bind pace _ targets
    (fun answer => match answer with
      | none => throw (.notFound (mapper.collectionName options.collection) identity)
      | some record => adapter.resolveOne pace mapper record options.load) session
  refine ⟨after, logged, ?_⟩
  rw [find, mapper_eq_pure registered, pure_bind]
  refine answered.trans ?_
  rw [adapter.answer_identityFilter]
  cases adapter.identified session.store mapper identity options <;> rfl

/-- What is found by an identity is the record that the store answers with, with the
relations that the options ask for. -/
theorem outcome_find_eq_ok_iff (pace : Pace)
    (registered : adapter.catalog.get? name = some mapper) (session : Session) (identity : Value)
    (options : FindOptions) (found : Document) :
    ((adapter.find pace name identity options).outcome session).1 = .ok found ↔
      mapper.collectionName options.collection ∉ session.store.unavailable ∧
        ∃ record, adapter.identified session.store mapper identity options = some record ∧
          ((adapter.plan mapper options.load).resolved session.store .single [record]).outcome =
            .ok [found] := by
  obtain ⟨after, logged, outcome⟩ := adapter.outcome_find_after pace registered session identity
    options
  rw [outcome]
  split
  · rename_i refused
    exact iff_of_false (by intro impossible; cases impossible) fun reached => reached.1 refused
  · rename_i accepted
    rw [and_iff_right accepted]
    cases adapter.identified session.store mapper identity options with
    | none => exact iff_of_false (by intro impossible; cases impossible) (by simp)
    | some record =>
        simp only [Option.some.injEq, exists_eq_left']
        rw [← Plan.outcome_resolved_congr logged.agrees]
        exact adapter.outcome_resolveOne_eq_ok_iff pace after mapper record options.load found

/-- What a query finds are the records that the store answers with, with the relations that the
options ask for. -/
theorem outcome_findAll_eq_ok_iff (pace : Pace)
    (registered : adapter.catalog.get? name = some mapper) (session : Session)
    (selection : Selection) (options : FindOptions) (found : List Document) :
    ((adapter.findAll pace name selection options).outcome session).1 = .ok found ↔
      mapper.collectionName options.collection ∉ session.store.unavailable ∧
        ((adapter.plan mapper options.load).resolved session.store .many
          ((Call.fetch (mapper.collectionName options.collection) selection.compile
            options.projection).answer (session.store.records
              (mapper.collectionName options.collection)))).outcome = .ok found := by
  have targets : (Call.fetch (mapper.collectionName options.collection) selection.compile
      options.projection).request.collection = mapper.collectionName options.collection := rfl
  obtain ⟨after, logged, answered⟩ := Access.outcome_call_bind pace _ targets
    (fun records => adapter.resolveMany pace mapper records options.load) session
  rw [findAll, mapper_eq_pure registered, pure_bind, answered]
  split
  · rename_i refused
    exact iff_of_false (by intro impossible; cases impossible) fun reached => reached.1 refused
  · rename_i accepted
    rw [and_iff_right accepted, ← Plan.outcome_resolved_congr logged.agrees]
    exact adapter.outcome_resolve_eq_ok_iff pace after .many mapper _ options.load found

/-- What is found by a literal identity is made from the first stored record that has it. -/
theorem stored_of_find (registered : adapter.catalog.get? name = some mapper)
    (noGroup : mapper.identity adapter.config.defaultIdAttribute ≠ alternativesKey)
    (literal : ¬ identity.ReadsAsOperators)
    (finds : ((adapter.find pace name identity options).outcome session).1 = .ok found) :
    ∃ stored ∈ session.store.records (mapper.collectionName options.collection),
      IsOrContains (stored.read? (mapper.identity adapter.config.defaultIdAttribute)) identity ∧
        ((adapter.plan mapper options.load).resolved session.store .single
          [project options.projection stored]).outcome = .ok [found] := by
  rcases (outcome_find_eq_ok_iff pace registered session identity options found).mp finds with
    ⟨_, record, identified, resolves⟩
  rcases Option.map_eq_some_iff.mp identified with ⟨stored, isFirst, rfl⟩
  rcases List.mem_filter.mp (List.mem_of_head? isFirst) with ⟨member, satisfied⟩
  exact ⟨stored, member, (satisfies_point_iff noGroup literal stored).mp satisfied, resolves⟩

end Adapter

/-! ## Equality criteria as data -/

/-- A criterion of equality asks for the records whose field is or contains the operand, unless
the operand is a document of operators, each of which is then asked for, or the field is the
group of alternatives, one of which is.  With an identity that is read as data, nothing is found
but a stored record that has it, and this record keeps it if no fields are left out and no
relation is attached over it. -/
theorem equality_reads_data :
    (∀ (field : String) (operand : Value) (record : Document),
      (field ≠ "$or" → ¬ operand.ReadsAsOperators →
        (satisfies record (Selection.equality field operand).filter = true ↔
          IsOrContains (record.read? field) operand)) ∧
      (field ≠ "$or" → ∀ operators, operand = .object operators →
        isOperatorDocument operators = true →
        (satisfies record (Selection.equality field operand).filter = true ↔
          ∀ entry ∈ operators, satisfiesOperator (record.read? field) entry.1 entry.2 = true)) ∧
      (field = "$or" →
        (satisfies record (Selection.equality field operand).filter = true ↔
          ∃ terms filter, operand = .array terms ∧ .object filter ∈ terms ∧
            satisfies record filter = true))) ∧
      ∀ (adapter : Adapter) (pace : Pace) (session : Session) (name : String) (mapper : Mapper)
        (identity : Value) (options : FindOptions) (found : Document),
        adapter.catalog.get? name = some mapper →
        mapper.identity adapter.config.defaultIdAttribute ≠ "$or" →
        ¬ identity.ReadsAsOperators →
        ((adapter.find pace name identity options).outcome session).1 = .ok found →
        ∃ stored ∈ session.store.records (mapper.collectionName options.collection),
          IsOrContains (stored.read? (mapper.identity adapter.config.defaultIdAttribute))
              identity ∧
            ((adapter.plan mapper options.load).resolved session.store .single
              [project options.projection stored]).outcome = .ok [found] ∧
            (options.fields = none →
              (adapter.plan mapper options.load).Spares
                (mapper.identity adapter.config.defaultIdAttribute) →
              found.read? (mapper.identity adapter.config.defaultIdAttribute) =
                stored.read? (mapper.identity adapter.config.defaultIdAttribute)) := by
  constructor
  · intro field operand record
    rw [Selection.filter_equality]
    refine ⟨fun noGroup literal => satisfies_point_iff noGroup literal record, ?_, ?_⟩
    · rintro noGroup operators rfl marked
      exact satisfies_operators_iff noGroup marked record
    · rintro rfl
      have isGroup : "$or" = alternativesKey := rfl
      rw [satisfies_single, if_pos isGroup]
      exact satisfiesGroup_iff record operand
  · intro adapter pace session name mapper identity options found registered noGroup literal finds
    rcases Adapter.stored_of_find registered noGroup literal finds with
      ⟨stored, member, holds, resolves⟩
    refine ⟨stored, member, holds, resolves, ?_⟩
    intro allFields spares
    have whole : project options.projection stored = stored := by
      rw [FindOptions.projection, allFields]
      rfl
    rw [whole] at resolves
    have kept := Plan.read?_resolved spares resolves
    exact (List.cons.inj kept).1

set_option maxRecDepth 100000 in
/-- An order that is asked for in the place of a value, and alternatives that are asked for in
the place of a list. -/
theorem not_equality_reads_data_operators :
    satisfies [("id", .string "w")]
        (Selection.equality "id" (.object [("$gt", .string "")])).filter = true ∧
      ¬ IsOrContains (Document.read? [("id", .string "w")] "id")
        (.object [("$gt", .string "")]) ∧
      satisfies [("id", .string "w")]
        (Selection.equality "$or" (.array [.object [("id", .string "w")]])).filter = true ∧
      ¬ IsOrContains (Document.read? [("id", .string "w")] "$or")
        (.array [.object [("id", .string "w")]]) ∧
      ((magazine.find .direct "w" (.object [("$gt", .string "")]) .none).outcome
        ⟨magazineStore, []⟩).1 = .ok [("id", .string "w"), ("of", .string "d")] := by
  simp only [← equalsOrContains_iff, Bool.not_eq_true]
  exact ⟨by cbv, by cbv, by cbv, by cbv, by cbv⟩

set_option maxRecDepth 100000 in
theorem equality_reads_data_magazine :
    (satisfies [("id", .string "w")] (Selection.equality "id" (.string "w")).filter = true ↔
        IsOrContains (Document.read? [("id", .string "w")] "id") (.string "w")) ∧
      (satisfies [("id", .string "w")]
          (Selection.equality "id" (.object [("$gt", .string "")])).filter = true ↔
        ∀ entry ∈ [("$gt", Value.string "")],
          satisfiesOperator (Document.read? [("id", .string "w")] "id") entry.1 entry.2 = true) ∧
      (satisfies [("id", .string "w")]
          (Selection.equality "$or" (.array [.object [("id", .string "w")]])).filter = true ↔
        ∃ terms filter, Value.array [.object [("id", .string "w")]] = .array terms ∧
          .object filter ∈ terms ∧ satisfies [("id", .string "w")] filter = true) ∧
      ∃ stored ∈ magazineStore.records "w", IsOrContains (stored.read? "id") (.string "w") ∧
        Document.read? [("id", .string "w"), ("of", .string "d"),
          ("at", .object [("id", .string "d")])] "id" = stored.read? "id" := by
  have literal : ∀ text, ¬ (Value.string text).ReadsAsOperators := by
    rintro text ⟨_, impossible, _⟩
    cases impossible
  have registered : magazine.catalog.get? "w" = some magazineWriter := by cbv
  have finds : ((magazine.find .direct "w" (.string "w") ⟨⟨["at"]⟩, none, none⟩).outcome
      ⟨magazineStore, []⟩).1 = .ok [("id", .string "w"), ("of", .string "d"),
        ("at", .object [("id", .string "d")])] := by
    cbv
  have spares : (magazine.plan magazineWriter ⟨["at"]⟩).Spares "id" := by
    apply Plan.spares_ofRelations
    decide
  have asked := equality_reads_data.1
  rcases equality_reads_data.2 magazine .direct ⟨magazineStore, []⟩ "w" magazineWriter (.string "w")
    ⟨⟨["at"]⟩, none, none⟩ _ registered (by decide) (literal "w") finds with
    ⟨stored, member, holds, _, kept⟩
  exact ⟨(asked "id" (.string "w") _).1 (by decide) (literal "w"),
    (asked "id" _ _).2.1 (by decide) _ rfl (by decide), (asked "$or" _ _).2.2 rfl,
    stored, member, holds, kept rfl spares⟩

end RecordGraph
