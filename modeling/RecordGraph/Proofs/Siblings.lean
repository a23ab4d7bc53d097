import RecordGraph.Proofs.Clobbering
import RecordGraph.Proofs.DottedPaths

/-!
# Relations of one mapper

The keys of all relations of a level are read before anything is attached, and below a relation
the list is cut down to the paths through it.  What a relation attaches to the owners is
therefore the same whichever others are loaded beside it, also if one of them is attached over
the field that holds its keys.
-/

namespace RecordGraph

namespace EagerLoad

/-! ## The entries of one relation -/

/-- The entries that are a name or go on from it. -/
def under (load : EagerLoad) (name : String) : EagerLoad where
  entries := load.entries.filter fun entry =>
    entry == name || (name ++ ".").toList.isPrefixOf entry.toList

variable {load : EagerLoad} {name : String}

theorem mem_under_iff (entry : String) :
    entry ∈ (load.under name).entries ↔
      entry ∈ load.entries ∧ (entry = name ∨ ∃ rest, entry = name ++ "." ++ rest) := by
  have goesOn : (name ++ ".").toList <+: entry.toList ↔ ∃ rest, entry = name ++ "." ++ rest := by
    constructor
    · intro isPrefix
      obtain ⟨rest, spelled⟩ := isPrefix
      refine ⟨String.ofList rest, ?_⟩
      rw [← String.toList_inj, ← spelled]
      simp
    · intro goesOn
      obtain ⟨rest, rfl⟩ := goesOn
      exact ⟨rest.toList, by simp⟩
  rw [under, List.mem_filter, Bool.or_eq_true, beq_iff_eq, List.isPrefixOf_iff_prefix, goesOn]

theorem contains_of_contains_under {listed : String}
    (contained : (load.under name).contains listed = true) : load.contains listed = true := by
  rw [contains_iff, mem_under_iff] at contained
  exact (load.contains_iff listed).mpr ⟨contained.1, contained.2.1⟩

/-- The entries of a relation select it under the name that they are chosen for. -/
theorem matched?_under {target field : String}
    (selected : load.matched? target field = some name) :
    (load.under name).matched? target field = some name := by
  have contained : (load.under name).contains name = true := by
    have inAll := (load.contains_iff name).mp (contains_of_matched? selected)
    exact ((load.under name).contains_iff name).mpr
      ⟨inAll.1, (mem_under_iff name).mpr ⟨inAll.2, Or.inl rfl⟩⟩
  unfold matched? at selected ⊢
  by_cases byTarget : load.contains target = true
  · rw [if_pos byTarget, Option.some.injEq] at selected
    rw [selected, if_pos contained]
  · have notByTarget : ¬ (load.under name).contains target = true :=
      fun inFew => byTarget (contains_of_contains_under inFew)
    rw [if_neg byTarget] at selected
    rw [if_neg notByTarget]
    split at selected
    · rw [Option.some.injEq] at selected
      rw [selected, if_pos contained]
    · cases selected

theorem matched?_ne_none_of_under {target field : String}
    (selected : (load.under name).matched? target field ≠ none) :
    load.matched? target field ≠ none := by
  obtain ⟨found, isFound⟩ := Option.ne_none_iff_exists'.mp selected
  have byEither : load.contains target = true ∨ load.contains field = true := by
    unfold matched? at isFound
    split at isFound
    · rename_i byTarget
      exact Or.inl (contains_of_contains_under byTarget)
    · split at isFound
      · rename_i byField
        exact Or.inr (contains_of_contains_under byField)
      · cases isFound
  unfold matched?
  rcases byEither with byTarget | byField
  · rw [if_pos byTarget]
    exact Option.some_ne_none target
  · rw [if_pos byField]
    split <;> exact Option.some_ne_none _

theorem descend_under_alike (load : EagerLoad) (policy : PrunePolicy) (name : String) :
    ((load.under name).descend policy name).Alike (load.descend policy name) := by
  intro rest nonempty
  rw [mem_descend_iff (load.under name) policy name nonempty,
    mem_descend_iff load policy name nonempty, mem_under_iff]
  exact and_iff_left (Or.inr ⟨rest, rfl⟩)

end EagerLoad

/-! ## A relation among others -/

theorem Step.map_read?_attach_self (step : Step) (batch : Batch)
    (owners related current : List Document) :
    ((step.task batch owners).attach related current).map (·.read? step.relation.localField) =
      List.zipWith Option.or ((step.task batch owners).attachments related)
        (current.map (·.read? step.relation.localField)) := by
  rw [Task.attach, attachAll, List.map_zipWith, List.zipWith_map_right, List.zipWith_comm]
  congr 1
  funext attachment owner
  exact read?_attachOne_self step.relation.localField owner attachment

namespace Plan

/-- A step is loaded onto the owners in one place of a level, which spares its field
elsewhere. -/
inductive LoadsApart : Plan → Step → Plan → Prop
  | here (step : Step) (below : Unit → Plan) {rest : Plan} :
      rest.Spares step.relation.localField → LoadsApart (.load step below rest) step (below ())
  | later {first step : Step} (below : Unit → Plan) {rest nested : Plan} :
      PathsPart first.relation.localField step.relation.localField →
      LoadsApart rest step nested → LoadsApart (.load first below rest) step nested

variable {plan nested : Plan} {step : Step} {store : Store} {batch : Batch}
  {owners current resolved : List Document}

/-- What is read where a step is attached is what its task gives, or else what was there. -/
theorem LoadsApart.map_read?_attachTo (apart : plan.LoadsApart step nested)
    (sameLength : current.length = owners.length) {loaded : List Loaded}
    (gathers : (plan.gathered store batch owners).outcome = .ok loaded) :
    ∃ related, ((step.task batch owners).related store fun inner found =>
        nested.resolved store inner found).outcome = .ok related ∧
      (Loaded.attachTo current loaded).map (·.read? step.relation.localField) =
        List.zipWith Option.or ((step.task batch owners).attachments related)
          (current.map (·.read? step.relation.localField)) := by
  induction apart generalizing current loaded with
  | here step below spared =>
      obtain ⟨related, later, loads, gathersLater, rfl⟩ :=
        (outcome_gathered_load_eq_ok_iff store batch owners step below _ loaded).mp gathers
      refine ⟨related, loads, ?_⟩
      have laterKept :=
        read?_attachTo spared (step.length_attach batch sameLength related) gathersLater
      exact laterKept.trans (step.map_read?_attach_self batch owners related current)
  | @later first step below rest nested part _ inductionHypothesis =>
      obtain ⟨firstRelated, later, _, gathersLater, rfl⟩ :=
        (outcome_gathered_load_eq_ok_iff store batch owners first below rest loaded).mp gathers
      obtain ⟨related, loads, reads⟩ := inductionHypothesis
        (first.length_attach batch sameLength firstRelated) gathersLater
      rw [first.map_read?_attach part batch sameLength] at reads
      exact ⟨related, loads, reads⟩

theorem LoadsApart.map_read?_resolved (apart : plan.LoadsApart step nested)
    (nonempty : owners ≠ [])
    (loads : (plan.resolved store batch owners).outcome = .ok resolved) :
    ∃ related, ((step.task batch owners).related store fun inner found =>
        nested.resolved store inner found).outcome = .ok related ∧
      resolved.map (·.read? step.relation.localField) =
        List.zipWith Option.or ((step.task batch owners).attachments related)
          (owners.map (·.read? step.relation.localField)) := by
  obtain ⟨loaded, gathers, rfl⟩ :=
    (outcome_resolved_eq_ok_iff plan store batch nonempty resolved).mp loads
  exact apart.map_read?_attachTo rfl gathers

/-- Two levels that load the same step with the same level below it attach the same values for
it, whatever else they load. -/
theorem LoadsApart.map_read?_congr {other : Plan} (apart : plan.LoadsApart step nested)
    (otherApart : other.LoadsApart step nested) (nonempty : owners ≠ [])
    {otherResolved : List Document}
    (loads : (plan.resolved store batch owners).outcome = .ok resolved)
    (otherLoads : (other.resolved store batch owners).outcome = .ok otherResolved) :
    resolved.map (·.read? step.relation.localField) =
      otherResolved.map (·.read? step.relation.localField) := by
  obtain ⟨related, loadsRelated, reads⟩ := apart.map_read?_resolved nonempty loads
  obtain ⟨otherRelated, loadsOther, otherReads⟩ :=
    otherApart.map_read?_resolved nonempty otherLoads
  have sameRelated : related = otherRelated :=
    Except.ok.inj (loadsRelated.symm.trans loadsOther)
  rw [reads, otherReads, sameRelated]

/-! ## Plans with a relation among others -/

variable {adapter : Adapter} {mapper target : Mapper} {load : EagerLoad} {relation : Relation}
  {before after relations : List Relation} {name : String}

theorem exists_target_of_selected
    (known : ∀ unregistered,
      ofRelations adapter.catalog adapter.config mapper load relations ≠ .unknown unregistered)
    (declared : relation ∈ relations)
    (selected : load.matched? relation.target relation.localField ≠ none) :
    ∃ target, adapter.catalog.get? relation.target = some target := by
  induction relations with
  | nil => cases declared
  | cons first rest inductionHypothesis =>
      obtain ⟨restKnown, registered, _⟩ := ofRelations_cons_of_known known
      rcases List.mem_cons.mp declared with isFirst | inRest
      · rw [isFirst] at selected ⊢
        exact registered selected
      · exact inductionHypothesis restKnown inRest

/-- A selected relation with a key is loaded apart if no other selected one has its field. -/
theorem loadsApart_ofRelations (makes : adapter.Makes mapper step)
    (known : ∀ unregistered, ofRelations adapter.catalog adapter.config mapper load
      (before ++ step.relation :: after) ≠ .unknown unregistered)
    (selected : load.matched? step.relation.target step.relation.localField = some name)
    (parts : ∀ sibling ∈ before ++ after,
      load.matched? sibling.target sibling.localField ≠ none →
        PathsPart sibling.localField step.relation.localField) :
    (ofRelations adapter.catalog adapter.config mapper load
      (before ++ step.relation :: after)).LoadsApart step
        (adapter.plan step.target (load.descend adapter.config.prunePolicy name)) := by
  induction before with
  | nil =>
      rw [List.nil_append] at known ⊢
      obtain ⟨_, _, ⟨unused, _⟩ | ⟨first, other, isFirst, makesFirst, matched, planned⟩⟩ :=
        ofRelations_cons_of_known known
      · simp [selected, makes.keyed] at unused
      · rw [selected, Option.some.injEq] at matched
        rw [planned, makesFirst.eq_of_relation makes isFirst, ← matched]
        exact .here step _ (spares_ofRelations_of_selected parts)
  | cons first before inductionHypothesis =>
      obtain ⟨firstParts, restParts⟩ := List.forall_mem_cons.mp parts
      rw [List.cons_append] at known ⊢
      obtain ⟨restKnown, _, ⟨_, leftOut⟩ | ⟨firstStep, other, isFirst, _, matched, planned⟩⟩ :=
        ofRelations_cons_of_known known
      · rw [leftOut]
        exact inductionHypothesis restKnown restParts
      · rw [planned]
        refine .later _ ?_ (inductionHypothesis restKnown restParts)
        rw [isFirst]
        exact firstParts (matched ▸ Option.some_ne_none other)

/-- A relation without a key is loaded by no plan. -/
theorem ofRelations_of_keyless
    (registered : adapter.catalog.get? relation.target = some target)
    (keyless : relation.join? = none) :
    ofRelations adapter.catalog adapter.config mapper load (before ++ relation :: after) =
      ofRelations adapter.catalog adapter.config mapper load (before ++ after) := by
  induction before with
  | nil =>
      rw [List.nil_append, List.nil_append, ofRelations_cons]
      cases load.matched? relation.target relation.localField with
      | none => rfl
      | some name => simp only [registered, keyless]
  | cons first before inductionHypothesis =>
      rw [List.cons_append, List.cons_append, ofRelations_cons, ofRelations_cons,
        inductionHypothesis]

end Plan

/-! ## Loading a relation alone -/

/-- Below a relation, only the entries that go on from its name count. -/
theorem Adapter.plan_descend_under (adapter : Adapter) (target : Mapper) (load : EagerLoad)
    (name : String) :
    adapter.plan target ((load.under name).descend adapter.config.prunePolicy name) =
      adapter.plan target (load.descend adapter.config.prunePolicy name) :=
  Plan.ofRelations_congr rfl target
    (load.descend_under_alike adapter.config.prunePolicy name) target.relations

/-- If no other selected relation has a field at the same place, a relation attaches to every
owner what it does when only the entries that are the name it is selected under, or go on from
it, are kept of the list. -/
theorem Adapter.resolve_under_reads_alike {adapter : Adapter} {mapper : Mapper} {relation : Relation}
    {before after : List Relation} (declared : mapper.relations = before ++ relation :: after)
    {load : EagerLoad} {name : String}
    (selected : load.matched? relation.target relation.localField = some name)
    (parts : ∀ sibling ∈ before ++ after,
      load.matched? sibling.target sibling.localField ≠ none →
        PathsPart sibling.localField relation.localField)
    {pace lonePace : Pace} {batch : Batch} {session : Session}
    {owners resolved loneResolved : List Document}
    (resolves : ((adapter.resolve pace batch mapper owners load).outcome session).1 =
      .ok resolved)
    (loneResolves : ((adapter.resolve lonePace batch mapper owners (load.under name)).outcome
      session).1 = .ok loneResolved) :
    resolved.length = owners.length ∧ loneResolved.length = owners.length ∧
      resolved.map (·.read? relation.localField) =
        loneResolved.map (·.read? relation.localField) := by
  rw [outcome_resolve_eq_ok_iff] at resolves loneResolves
  refine ⟨Plan.length_resolved resolves, Plan.length_resolved loneResolves, ?_⟩
  by_cases empty : owners = []
  · subst empty
    rw [List.length_eq_zero_iff.mp (Plan.length_resolved resolves),
      List.length_eq_zero_iff.mp (Plan.length_resolved loneResolves)]
  · have known := Level.Resolves.ne_unknown empty
      (⟨resolved, resolves⟩ : Level.Resolves ⟨adapter.plan mapper load, batch, owners⟩ session.store)
    have loneKnown := Level.Resolves.ne_unknown empty
      (⟨loneResolved, loneResolves⟩ :
        Level.Resolves ⟨adapter.plan mapper (load.under name), batch, owners⟩ session.store)
    have loneSelected := EagerLoad.matched?_under selected
    have loneParts : ∀ sibling ∈ before ++ after,
        (load.under name).matched? sibling.target sibling.localField ≠ none →
          PathsPart sibling.localField relation.localField :=
      fun sibling member isSelected =>
        parts sibling member (EagerLoad.matched?_ne_none_of_under isSelected)
    have planned : ∀ asked, adapter.plan mapper asked =
        Plan.ofRelations adapter.catalog adapter.config mapper asked
          (before ++ relation :: after) := by
      intro asked
      rw [← declared]
      rfl
    rw [planned] at resolves loneResolves
    simp only [planned] at known loneKnown
    obtain ⟨target, registered⟩ := Plan.exists_target_of_selected known
      (List.mem_append_right before List.mem_cons_self)
      (selected ▸ Option.some_ne_none name)
    cases keyed : relation.join? with
    | none =>
        rw [Plan.ofRelations_of_keyless registered keyed] at resolves loneResolves
        have kept := Plan.read?_resolved (Plan.spares_ofRelations_of_selected parts) resolves
        have loneKept :=
          Plan.read?_resolved (Plan.spares_ofRelations_of_selected loneParts) loneResolves
        exact kept.trans loneKept.symm
    | some join =>
        have makes : adapter.Makes mapper
            ⟨relation, join, target, mapper.identity adapter.config.defaultIdAttribute,
              target.identity adapter.config.defaultIdAttribute⟩ :=
          ⟨registered, keyed, rfl, rfl⟩
        have apart := Plan.loadsApart_ofRelations makes known selected parts
        have loneApart := Plan.loadsApart_ofRelations makes loneKnown loneSelected loneParts
        rw [adapter.plan_descend_under] at loneApart
        exact apart.map_read?_congr loneApart empty resolves loneResolves

/-! ## Clerks and their desks -/

/-- The mapper of clerks, who get their tasks attached over the field that tells their desks. -/
def officeClerk : Mapper :=
  (((Mapper.named "c").withTable "c").withRelation (.hasMany "t" "at" "by")).withRelation
    (.belongsTo "d" "desk" "at")

/-- The mapper of desks, on which there are lamps. -/
def officeDesk : Mapper :=
  ((Mapper.named "d").withTable "d").withRelation (.hasMany "l" "lamps" "on")

def office : Adapter where
  catalog := ⟨[officeClerk, officeDesk, (Mapper.named "l").withTable "l",
    (Mapper.named "t").withTable "t"]⟩
  config := .default

def officeStore : Store where
  collections :=
    [("c", [[("id", .string "c1"), ("at", .string "d1")]]),
      ("d", [[("id", .string "d1")]]),
      ("l", [[("id", .string "l1"), ("on", .string "d1")]]),
      ("t", [[("id", .string "t1"), ("by", .string "c1")]])]
  unavailable := []
  log := []

/-- The desk of the clerk, with its lamp. -/
def officeFurnished : Value :=
  .object [("id", .string "d1"),
    ("lamps", .array [.object [("id", .string "l1"), ("on", .string "d1")]])]

set_option maxRecDepth 100000 in
/-- The clerk gets the desk with its lamp, whether or not tasks are attached over the field that
holds its key. -/
theorem resolve_under_reads_alike_office :
    EagerLoad.under ⟨["t", "desk", "at", "desk.lamps"]⟩ "desk" = ⟨["desk", "desk.lamps"]⟩ ∧
      ∃ resolved loneResolved,
        ((office.resolve .direct .many officeClerk (officeStore.records "c")
          ⟨["t", "desk", "at", "desk.lamps"]⟩).outcome ⟨officeStore, []⟩).1 = .ok resolved ∧
        ((office.resolve .direct .many officeClerk (officeStore.records "c")
          ⟨["desk", "desk.lamps"]⟩).outcome ⟨officeStore, []⟩).1 = .ok loneResolved ∧
        resolved.map (·.read? "at") ≠ loneResolved.map (·.read? "at") ∧
        loneResolved.map (·.read? "desk") = [some officeFurnished] ∧
        resolved.map (·.read? "desk") = loneResolved.map (·.read? "desk") := by
  have under : EagerLoad.under ⟨["t", "desk", "at", "desk.lamps"]⟩ "desk" =
      ⟨["desk", "desk.lamps"]⟩ := by
    cbv
  have resolves : ((office.resolve .direct .many officeClerk (officeStore.records "c")
      ⟨["t", "desk", "at", "desk.lamps"]⟩).outcome ⟨officeStore, []⟩).1 =
      .ok [[("id", .string "c1"),
        ("at", .array [.object [("id", .string "t1"), ("by", .string "c1")]]),
        ("desk", officeFurnished)]] := by
    cbv
  have loneResolves : ((office.resolve .direct .many officeClerk (officeStore.records "c")
      (EagerLoad.under ⟨["t", "desk", "at", "desk.lamps"]⟩ "desk")).outcome
        ⟨officeStore, []⟩).1 =
      .ok [[("id", .string "c1"), ("at", .string "d1"), ("desk", officeFurnished)]] := by
    rw [under]
    cbv
  obtain ⟨_, _, sameDesks⟩ := Adapter.resolve_under_reads_alike
    (show officeClerk.relations = [.hasMany "t" "at" "by"] ++ .belongsTo "d" "desk" "at" :: [] by
      rfl)
    (show EagerLoad.matched? ⟨["t", "desk", "at", "desk.lamps"]⟩ "d" "desk" = some "desk" by
      decide)
    (by decide) resolves loneResolves
  refine ⟨under, _, _, resolves, under ▸ loneResolves, ?_, ?_, sameDesks⟩
  · cbv
    simp
  · cbv

end RecordGraph
