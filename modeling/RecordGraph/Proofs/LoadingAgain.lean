import RecordGraph.Proofs.UntouchedFields

/-!
# Loading again

Records that are loaded once more with the same list get the same values at the same places, if no
relation is attached where another one is or where keys are read: the keys are as they were, so
that every task is the same, and writing a value again changes nothing.
-/

namespace RecordGraph

/-! ## Fields that keys are read from -/

/-- The field of the owners that a relation reads their keys from, given their identity field. -/
def Relation.keyField? (relation : Relation) (ownerIdentity : String) : Option String :=
  match relation.join? with
  | some (.parent key) => some key
  | some (.listed localKeys) => some localKeys
  | some _ => some ownerIdentity
  | none => none

theorem Adapter.Makes.keyField?_eq {adapter : Adapter} {mapper : Mapper} {step : Step}
    (makes : adapter.Makes mapper step) :
    step.relation.keyField? (mapper.identity adapter.config.defaultIdAttribute) =
      some step.ownerField := by
  rw [Relation.keyField?, makes.keyed, ← makes.ownerIdentity, Step.ownerField]
  cases step.join <;> rfl

/-- No selected relation of a mapper is attached at the first segment of a field that keys are
read from, or of the field of another one. -/
structure Adapter.AttachesApart (adapter : Adapter) (mapper : Mapper) (load : EagerLoad) :
    Prop where
  keys : ∀ relation ∈ load.selected mapper, ∀ reader ∈ load.selected mapper,
    ∀ field ∈ reader.keyField? (mapper.identity adapter.config.defaultIdAttribute),
      PathsPart relation.localField field
  fields : ∀ relation ∈ load.selected mapper, ∀ other ∈ load.selected mapper, relation ≠ other →
    PathsPart relation.localField other.localField

/-! ## The same tasks -/

theorem Plan.gathered_congr {plan : Plan} {batch : Batch} {owners others : List Document}
    (sameTasks : ∀ step nested, plan.Contains step nested →
      step.task batch owners = step.task batch others) (store : Store) :
    plan.gathered store batch owners = plan.gathered store batch others := by
  induction plan with
  | done => rfl
  | unknown target => rfl
  | load step below rest _ restHypothesis =>
      have sameTask := sameTasks step (below ()) (.here step below rest)
      have sameRest := restHypothesis fun other nested contained =>
        sameTasks other nested (.later contained)
      rw [gathered, gathered, sameTask, sameRest]

namespace Adapter

variable {adapter : Adapter} {mapper : Mapper} {load : EagerLoad} {batch : Batch}
  {owners resolved : List Document} {store : Store}

theorem AttachesApart.spares (apart : adapter.AttachesApart mapper load) {step : Step}
    (offered : adapter.Offers mapper step)
    (selected : step.relation ∈ load.selected mapper) :
    (adapter.plan mapper load).Spares step.ownerField := by
  apply Plan.spares_ofRelations_of_selected
  intro relation declared isSelected
  have relationSelected : relation ∈ load.selected mapper :=
    List.mem_filter.mpr ⟨declared, decide_eq_true isSelected⟩
  exact apart.keys relation relationSelected step.relation selected _ offered.keyField?_eq

theorem AttachesApart.parts_of_mem_writesAt (apart : adapter.AttachesApart mapper load)
    {loaded : List Loaded}
    (gathers : ((adapter.plan mapper load).gathered store batch owners).outcome = .ok loaded)
    {index : Nat} {first second : String × Value} (isFirst : first ∈ Loaded.writesAt loaded index)
    (isSecond : second ∈ Loaded.writesAt loaded index) :
    first = second ∨ PathsPart first.1 second.1 := by
  obtain ⟨step, related, loads, written⟩ := Plan.exists_loads_of_mem_writesAt gathers isFirst
  obtain ⟨other, otherRelated, otherLoads, otherWritten⟩ :=
    Plan.exists_loads_of_mem_writesAt gathers isSecond
  by_cases sameRelation : step.relation = other.relation
  · obtain ⟨rfl, rfl⟩ := loads.eq_of_relation otherLoads sameRelation
    exact Or.inl (Option.some.inj (written.symm.trans otherWritten))
  · obtain ⟨value, _, rfl⟩ := Option.map_eq_some_iff.mp written
    obtain ⟨otherValue, _, rfl⟩ := Option.map_eq_some_iff.mp otherWritten
    exact Or.inr (apart.fields _ (loads.relation_mem_selected rfl) _
      (otherLoads.relation_mem_selected rfl) sameRelation)

/-! ## The same records -/

theorem AttachesApart.outcome_resolved_again (apart : adapter.AttachesApart mapper load)
    (resolves : ((adapter.plan mapper load).resolved store batch owners).outcome = .ok resolved) :
    ((adapter.plan mapper load).resolved store batch resolved).outcome = .ok resolved := by
  by_cases empty : owners = []
  · subst empty
    obtain rfl : resolved = [] := (Except.ok.inj resolves).symm
    exact resolves
  · have sameLength := Plan.length_resolved resolves
    obtain ⟨loaded, gathers, rfl⟩ :=
      (Plan.outcome_resolved_eq_ok_iff _ store batch empty resolved).mp resolves
    have nonempty : Loaded.attachTo owners loaded ≠ [] := by
      intro nothing
      rw [nothing, List.length_nil] at sameLength
      exact empty (List.length_eq_zero_iff.mp sameLength.symm)
    -- the fields of the keys are spared, so that every task has the keys that it had before
    have gathersAgain : ((adapter.plan mapper load).gathered store batch
        (Loaded.attachTo owners loaded)).outcome = .ok loaded := by
      rw [← gathers]
      apply congrArg Transcript.outcome
      apply Plan.gathered_congr
      intro step nested contained
      obtain ⟨related, member⟩ := contained.exists_loaded gathers
      have loads : Level.Loads ⟨adapter.plan mapper load, batch, owners⟩ store step related :=
        ⟨loaded, gathers, member⟩
      have spared := apart.spares (loads.offers rfl).1 (loads.relation_mem_selected rfl)
      rw [Step.task, Step.task, Plan.read?_resolved spared resolves]
    refine (Plan.outcome_resolved_eq_ok_iff _ store batch nonempty _).mpr ⟨loaded, gathersAgain, ?_⟩
    apply List.ext_getElem?
    intro index
    have once := Plan.getElem?_attachTo gathers rfl index
    have again := Plan.getElem?_attachTo gathers sameLength index
    rw [again, once, Option.map_map]
    congr 1
    funext owner
    exact (owner.writeAll_writeAll
      (fun _ isFirst _ isSecond => apart.parts_of_mem_writesAt gathers isFirst isSecond)).symm

/-- Where no selected relation is attached over another one or over keys, resolving what has been
resolved with the same list succeeds and changes nothing. -/
theorem resolving_again_changes_nothing (apart : adapter.AttachesApart mapper load)
    (pace again : Pace) (session : Session) :
    (∀ owners resolved after,
      (adapter.resolveMany pace mapper owners load).outcome session = (.ok resolved, after) →
        ((adapter.resolveMany again mapper resolved load).outcome after).1 = .ok resolved) ∧
      ∀ owner resolved after,
        (adapter.resolveOne pace mapper owner load).outcome session = (.ok resolved, after) →
          ((adapter.resolveOne again mapper resolved load).outcome after).1 = .ok resolved := by
  constructor
  · intro owners resolved after ran
    have resolves := (adapter.outcome_resolve_eq_ok_iff pace session .many mapper owners load
      resolved).mp (congrArg Prod.fst ran)
    have logged := adapter.onlyLogs_resolve pace .many mapper owners load session
    rw [← resolveMany, ran] at logged
    rw [resolveMany, outcome_resolve_eq_ok_iff, Plan.outcome_resolved_congr logged.agrees]
    exact apart.outcome_resolved_again resolves
  · intro owner resolved after ran
    have resolves := (adapter.outcome_resolveOne_eq_ok_iff pace session mapper owner load
      resolved).mp (congrArg Prod.fst ran)
    have logged := adapter.onlyLogs_resolveOne pace mapper owner load session
    rw [ran] at logged
    rw [outcome_resolveOne_eq_ok_iff, Plan.outcome_resolved_congr logged.agrees]
    exact apart.outcome_resolved_again resolves

end Adapter

set_option maxRecDepth 100000 in
/-- Posts that have their authors and replies keep them as they are. -/
theorem resolving_again_changes_nothing_detailed :
    detailed.AttachesApart detailedPost ⟨["u", "replies"]⟩ ∧
      ∃ single after afterSingle,
        (detailed.resolveMany .direct detailedPost detailedPosts ⟨["u", "replies"]⟩).outcome
          ⟨blogStore, []⟩ = (.ok detailedResolved, after) ∧
        ((detailed.resolveMany .interleaved detailedPost detailedResolved
          ⟨["u", "replies"]⟩).outcome after).1 = .ok detailedResolved ∧
        (detailed.resolveOne .direct detailedPost [("by", .string "u1")]
          ⟨["u", "replies"]⟩).outcome ⟨blogStore, []⟩ = (.ok single, afterSingle) ∧
        ((detailed.resolveOne .interleaved detailedPost single ⟨["u", "replies"]⟩).outcome
          afterSingle).1 = .ok single := by
  have apart : detailed.AttachesApart detailedPost ⟨["u", "replies"]⟩ := ⟨by decide, by decide⟩
  obtain ⟨manyAgain, oneAgain⟩ := Adapter.resolving_again_changes_nothing apart .direct
    .interleaved ⟨blogStore, []⟩
  have resolvesSingle : ((detailed.resolveOne .direct detailedPost [("by", .string "u1")]
      ⟨["u", "replies"]⟩).outcome ⟨blogStore, []⟩).1 = .ok [("by", .string "u1"),
        ("details", .object [("author", .object [("id", .string "u1")])]),
        ("replies", .array [.object [("id", .string "p1"), ("by", .string "u2")]])] := by
    cbv
  exact ⟨apart, _, _, _, Prod.ext detailedPosts_resolved rfl,
    manyAgain _ _ _ (Prod.ext detailedPosts_resolved rfl), Prod.ext resolvesSingle rfl,
    oneAgain _ _ _ (Prod.ext resolvesSingle rfl)⟩

end RecordGraph
