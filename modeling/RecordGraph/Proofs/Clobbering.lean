import RecordGraph.Proofs.PathWrites
import RecordGraph.Proofs.RelationQueries

/-!
# Catalogs that do not clobber keys

A batched relation finds the records of each owner by a field of the related records,
after the relations of these records have been attached to them.  In a catalog that
does not clobber keys no relation is attached over a field that is read in this way.
-/

namespace RecordGraph

/-! ## Catalogs -/

/-- The field of the target's records that a relation reads to tell which owner they
are for.  Records that list their owner are handed over without reading any. -/
def Relation.comparedField? (relation : Relation) (targetIdentity : String) : Option String :=
  match relation.join? with
  | some (.parent _) => some targetIdentity
  | some (.listed _) => some targetIdentity
  | some (.firstChild foreignKey) => some foreignKey
  | some (.children foreignKey) => some foreignKey
  | _ => none

/-- No relation of a target is attached over the field that a relation to this target
reads, for the relations of a mapper and of all registered ones. -/
def Adapter.NonClobbering (adapter : Adapter) (mapper : Mapper) : Prop :=
  ∀ owner ∈ mapper :: adapter.catalog.mappers, ∀ relation ∈ owner.relations,
    ∀ target ∈ adapter.catalog.get? relation.target,
      ∀ field ∈ relation.comparedField? (target.identity adapter.config.defaultIdAttribute),
        ∀ nested ∈ target.relations, PathsPart nested.localField field

instance (adapter : Adapter) (mapper : Mapper) : Decidable (adapter.NonClobbering mapper) :=
  inferInstanceAs (Decidable (∀ owner ∈ mapper :: adapter.catalog.mappers,
    ∀ relation ∈ owner.relations, ∀ target ∈ adapter.catalog.get? relation.target,
      ∀ field ∈ relation.comparedField? (target.identity adapter.config.defaultIdAttribute),
        ∀ nested ∈ target.relations, PathsPart nested.localField field))

/-! ## Plans -/

/-- A field that a relation is not attached over is read on every record as before. -/
theorem Step.map_read?_attach (step : Step) {field : String}
    (part : PathsPart step.relation.localField field) (batch : Batch)
    {owners current : List Document} (sameLength : current.length = owners.length)
    (related : List Document) :
    ((step.task batch owners).attach related current).map (·.read? field) =
      current.map (·.read? field) := by
  rw [Task.attach, attachAll, attachments_task]
  apply List.ext_getElem
  · simp [sameLength]
  · intro index _ _
    simp only [List.getElem_map, List.getElem_zipWith]
    exact read?_attachOne part _ _

namespace Plan

/-- No relation of a level is attached over a field. -/
def Spares (field : String) : Plan → Prop
  | .done => True
  | .unknown _ => True
  | .load step _ rest => PathsPart step.relation.localField field ∧ rest.Spares field

/-- No level is attached over the field that the relation above it reads. -/
def NonClobbering : Plan → Prop
  | .done => True
  | .unknown _ => True
  | .load step below rest =>
      (¬ step.join.IsListing → (below ()).Spares step.relatedField) ∧
        (below ()).NonClobbering ∧ rest.NonClobbering

/-- A field that a level spares is read on every record as before. -/
theorem read?_attachTo {plan : Plan} {field : String} (spares : plan.Spares field)
    {store : Store} {batch : Batch} {owners current : List Document}
    (sameLength : current.length = owners.length) {loaded : List Loaded}
    (gathers : (plan.gathered store batch owners).outcome = .ok loaded) :
    (Loaded.attachTo current loaded).map (·.read? field) = current.map (·.read? field) := by
  induction plan generalizing current loaded with
  | done =>
      obtain rfl : loaded = [] := (Except.ok.inj gathers).symm
      rfl
  | unknown target => simp [gathered, Transcript.fail] at gathers
  | load step below rest _ restHypothesis =>
      obtain ⟨part, restSpares⟩ := spares
      obtain ⟨related, later, _, gathersLater, rfl⟩ :=
        (outcome_gathered_load_eq_ok_iff store batch owners step below rest loaded).mp gathers
      have attachedLength := step.length_attach batch sameLength related
      have laterKept := restHypothesis restSpares attachedLength gathersLater
      exact laterKept.trans (step.map_read?_attach part batch sameLength related)

theorem read?_resolved {plan : Plan} {field : String} (spares : plan.Spares field)
    {store : Store} {batch : Batch} {owners resolved : List Document}
    (loads : (plan.resolved store batch owners).outcome = .ok resolved) :
    resolved.map (·.read? field) = owners.map (·.read? field) := by
  by_cases empty : owners = []
  · subst empty
    obtain rfl : resolved = [] := (Except.ok.inj loads).symm
    rfl
  · obtain ⟨loaded, gathers, rfl⟩ :=
      (outcome_resolved_eq_ok_iff plan store batch empty resolved).mp loads
    exact read?_attachTo spares rfl gathers

theorem spares_cons {field : String} {step : Step} {below : Unit → Plan} {rest : Plan}
    (part : PathsPart step.relation.localField field) (spared : rest.Spares field) :
    (cons step below rest).Spares field := by
  cases rest with
  | unknown => trivial
  | _ => exact ⟨part, spared⟩

theorem nonClobbering_cons {step : Step} {below : Unit → Plan} {rest : Plan}
    (first : ¬ step.join.IsListing → (below ()).Spares step.relatedField)
    (belowFine : (below ()).NonClobbering) (restFine : rest.NonClobbering) :
    (cons step below rest).NonClobbering := by
  cases rest with
  | unknown => trivial
  | _ => exact ⟨first, belowFine, restFine⟩

/-- A level spares a field if no selected relation is attached over it. -/
theorem spares_ofRelations_of_selected {catalog : Catalog} {config : Config} {mapper : Mapper}
    {load : EagerLoad} {relations : List Relation} {field : String}
    (parts : ∀ relation ∈ relations,
      load.matched? relation.target relation.localField ≠ none →
        PathsPart relation.localField field) :
    (ofRelations catalog config mapper load relations).Spares field := by
  induction relations with
  | nil =>
      rw [ofRelations]
      trivial
  | cons relation rest inductionHypothesis =>
      obtain ⟨part, restParts⟩ := List.forall_mem_cons.mp parts
      have restSpared := inductionHypothesis restParts
      rw [ofRelations]
      split
      · exact restSpared
      · rename_i selected
        split
        · trivial
        · split
          · exact restSpared
          · exact spares_cons (part (by simp [selected])) restSpared

theorem spares_ofRelations {catalog : Catalog} {config : Config} {mapper : Mapper}
    {load : EagerLoad} {relations : List Relation} {field : String}
    (parts : ∀ relation ∈ relations, PathsPart relation.localField field) :
    (ofRelations catalog config mapper load relations).Spares field :=
  spares_ofRelations_of_selected fun relation member _ => parts relation member

/-- The plans of a catalog that does not clobber keys clobber none. -/
theorem nonClobbering_ofRelations {adapter : Adapter} {mapper : Mapper}
    (fine : adapter.NonClobbering mapper) {owner : Mapper}
    (known : owner ∈ mapper :: adapter.catalog.mappers) (load : EagerLoad)
    {relations : List Relation} (declared : ∀ relation ∈ relations, relation ∈ owner.relations) :
    (ofRelations adapter.catalog adapter.config owner load relations).NonClobbering := by
  fun_induction ofRelations adapter.catalog adapter.config owner load relations with
  | case1 => trivial
  | case2 _ _ _ _ _ restHypothesis =>
      exact restHypothesis known (List.forall_mem_cons.mp declared).2
  | case3 => trivial
  | case4 _ _ _ _ _ _ _ _ _ restHypothesis =>
      exact restHypothesis known (List.forall_mem_cons.mp declared).2
  | case5 owner load relation rest name _ target found join joined step below belowHypothesis
      restHypothesis =>
      obtain ⟨relationDeclared, restDeclared⟩ := List.forall_mem_cons.mp declared
      have targetKnown : target ∈ adapter.catalog.mappers := List.mem_of_find?_eq_some found
      apply nonClobbering_cons
      · intro notListing
        apply spares_ofRelations
        apply fine owner known relation relationDeclared target found step.relatedField
        simp only [Relation.comparedField?, joined, Step.relatedField, step]
        cases join with
        | listing foreignKeys => exact absurd ⟨foreignKeys, rfl⟩ notListing
        | _ => rfl
      · exact belowHypothesis (List.mem_cons_of_mem _ targetKnown) fun _ member => member
      · exact restHypothesis known restDeclared

end Plan

/-- The plan of a mapper clobbers no key, if its catalog does not. -/
theorem Adapter.NonClobbering.plan {adapter : Adapter} {mapper : Mapper}
    (fine : adapter.NonClobbering mapper) (load : EagerLoad) :
    (adapter.plan mapper load).NonClobbering :=
  Plan.nonClobbering_ofRelations fine List.mem_cons_self load fun _ member => member

end RecordGraph
