import RecordGraph.Proofs.DottedPaths

/-!
# Loading deeper levels

Whatever is loaded below a relation, the relation finds the same stored records.  For several
owners these are shared out only after the levels below have been attached to them, so that
an owner is given the same ones unless a relation below is attached over the field that is
compared with the keys of the owners.
-/

namespace RecordGraph

/-! ## Origins of what owners are given -/

namespace Task

/-- A related record is among those of the owner whose key field has the given value. -/
def keeps (task : Task) (held : Option Value) (record : Document) : Bool :=
  match task.step.join, task.batch with
  | .listing _, _ => true
  | _, .single => true
  | join, .many =>
      match record.read? task.step.relatedField with
      | some value => (join.keysIn held).any (·.equal value)
      | none => false

theorem share_eq_filter (task : Task) (related : List Document) (held : Option Value) :
    task.share related held = related.filter (task.keeps held) := by
  rcases task with ⟨step, batch, keys⟩
  rcases step with ⟨relation, join, target, ownerIdentity, targetIdentity⟩
  cases join <;> cases batch <;> first | rfl | exact (List.filter_true related).symm

theorem keeps_congr (task : Task) (held : Option Value) {first second : Document}
    (sameField : first.read? task.step.relatedField = second.read? task.step.relatedField) :
    task.keeps held first = task.keeps held second := by
  unfold keeps
  rw [sameField]

/-- The found records whose related records are kept, with these. -/
def kept (task : Task) (found related : List Document) (held : Option Value) :
    List (Document × Document) :=
  (found.zip related).filter fun pair => task.keeps held pair.2

/-- What an owner is given of the related records, with the found records that they are made
from: all that are kept for it, or the first of them. -/
def given (task : Task) (found related : List Document) (held : Option Value) :
    List (Document × Document) :=
  match task.step.join with
  | .parent _ => (task.kept found related held).take 1
  | .firstChild _ => (task.kept found related held).take 1
  | _ => task.kept found related held

/-- The found records that an owner is given. -/
def origins (task : Task) (found related : List Document) (held : Option Value) :
    List Document :=
  (task.given found related held).map Prod.fst

theorem map_snd_kept (task : Task) {found related : List Document}
    (sameLength : related.length = found.length) (held : Option Value) :
    (task.kept found related held).map Prod.snd = task.share related held := by
  have seconds : (found.zip related).map Prod.snd = related :=
    List.map_snd_zip sameLength.le
  rw [share_eq_filter]
  conv_rhs => rw [← seconds]
  rw [List.filter_map]
  rfl

theorem firstValue_take (records : List Document) :
    firstValue (records.take 1) = firstValue records := by
  cases records <;> rfl

theorem give_map_snd_given (task : Task) {found related : List Document}
    (sameLength : related.length = found.length) (held : Option Value) :
    task.step.join.give ((task.given found related held).map Prod.snd) =
      task.step.join.give (task.share related held) := by
  have seconds := task.map_snd_kept sameLength held
  unfold given
  cases join : task.step.join with
  | parent keyField =>
      simp only [Join.give, List.map_take, seconds, List.head?_take]
      rfl
  | firstChild foreignKey =>
      simp only [Join.give, List.map_take, seconds, firstValue_take]
  | _ => simp only [seconds]

theorem map_fst_kept_congr (task : Task) (held : Option Value) (found : List Document)
    {first second : List Document}
    (sameKept : first.map (task.keeps held) = second.map (task.keeps held)) :
    (task.kept found first held).map Prod.fst = (task.kept found second held).map Prod.fst := by
  unfold kept
  induction found generalizing first second with
  | nil => rfl
  | cons origin rest inductionHypothesis =>
      cases first with
      | nil =>
          rw [List.map_nil, eq_comm, List.map_eq_nil_iff] at sameKept
          rw [sameKept]
      | cons record records =>
          cases second with
          | nil => cases sameKept
          | cons other others =>
              rcases List.cons.inj sameKept with ⟨sameHead, sameTail⟩
              have sameRest := inductionHypothesis sameTail
              simp only [List.zip_cons_cons, List.filter_cons, ← sameHead]
              split
              · rw [List.map_cons, List.map_cons, sameRest]
              · exact sameRest

theorem origins_congr (task : Task) (held : Option Value) (found : List Document)
    {first second : List Document}
    (sameFields : first.map (·.read? task.step.relatedField) =
      second.map (·.read? task.step.relatedField)) :
    task.origins found first held = task.origins found second held := by
  have sameKept : first.map (task.keeps held) = second.map (task.keeps held) := by
    have sameLength : first.length = second.length := by
      simpa using congrArg List.length sameFields
    apply List.ext_getElem (by simp [sameLength])
    intro index inFirst inSecond
    have sameField := List.getElem_of_eq sameFields (by simpa using inFirst)
    simp only [List.getElem_map] at sameField ⊢
    exact task.keeps_congr held sameField
  have sameOrigins := task.map_fst_kept_congr held found sameKept
  unfold origins given
  split <;> simp only [List.map_take, sameOrigins]

end Task

/-! ## Two lists that select a relation -/

/-- Below a relation of the mapper, a list selects a relation that is attached over a field. -/
def Adapter.Overwrites (adapter : Adapter) (load : EagerLoad) (relation : Relation)
    (target : Mapper) (field : String) : Prop :=
  ∃ name, load.matched? relation.target relation.localField = some name ∧
    ∃ nested ∈ target.relations,
      (load.descend adapter.config.prunePolicy name).matched? nested.target nested.localField ≠
        none ∧ ¬ PathsPart nested.localField field

theorem Adapter.spares_of_not_overwrites {adapter : Adapter} {load : EagerLoad}
    {relation : Relation} {target : Mapper} {field name : String}
    (intact : ¬ adapter.Overwrites load relation target field)
    (selected : load.matched? relation.target relation.localField = some name) :
    (adapter.plan target (load.descend adapter.config.prunePolicy name)).Spares field := by
  apply Plan.spares_ofRelations_of_selected
  intro nested declared nestedSelected
  by_contra covers
  exact intact ⟨name, selected, nested, declared, nestedSelected, covers⟩

namespace Level

variable {adapter : Adapter} {mapper : Mapper} {load : EagerLoad} {batch : Batch}
  {owners : List Document} {store : Store} {step : Step} {related : List Document}

/-- The related records of a step are loaded with what its relation selects below it. -/
theorem Loads.outcome_related
    (loads : Level.Loads ⟨adapter.plan mapper load, batch, owners⟩ store step related) :
    ∃ name, load.matched? step.relation.target step.relation.localField = some name ∧
      ((step.task batch owners).related store fun nested found =>
        (adapter.plan step.target (load.descend adapter.config.prunePolicy name)).resolved store
          nested found).outcome = .ok related := by
  have known := loads.ne_unknown
  rcases loads with ⟨loaded, gathers, member⟩
  rcases Plan.contains_of_mem_gathered gathers member with
    ⟨other, below, contained, sameTask, resolves⟩
  have sameStep : step = other := (Task.mk.inj sameTask).1
  subst sameStep
  rcases (Plan.contains_ofRelations_iff known step below).mp contained with
    ⟨_, _, name, matched, rfl⟩
  exact ⟨name, matched, resolves⟩

/-- What is loaded for a relation of a level is determined. -/
theorem Loads.eq_of_relation {other : Step} {otherRelated : List Document}
    (loads : Level.Loads ⟨adapter.plan mapper load, batch, owners⟩ store step related)
    (otherLoads : Level.Loads ⟨adapter.plan mapper load, batch, owners⟩ store other otherRelated)
    (sameRelation : step.relation = other.relation) : step = other ∧ related = otherRelated := by
  rcases loads.offers rfl with ⟨offered, _⟩
  rcases otherLoads.offers rfl with ⟨otherOffered, _⟩
  obtain rfl := offered.toMakes.eq_of_relation otherOffered.toMakes sameRelation
  rcases loads.outcome_related with ⟨name, selected, resolves⟩
  rcases otherLoads.outcome_related with ⟨otherName, otherSelected, otherResolves⟩
  obtain rfl := Option.some.inj (selected.symm.trans otherSelected)
  exact ⟨rfl, Except.ok.inj (resolves.symm.trans otherResolves)⟩

/-- The related records of a step are those that its call finds, with what is loaded below. -/
theorem Loads.related_of_found
    (loads : Level.Loads ⟨adapter.plan mapper load, batch, owners⟩ store step related) :
    related.length = ((step.task batch owners).found store).length ∧
      ∀ field, ¬ adapter.Overwrites load step.relation step.target field →
        related.map (·.read? field) =
          ((step.task batch owners).found store).map (·.read? field) := by
  rcases loads.outcome_related with ⟨name, matched, resolves⟩
  rw [Task.outcome_related_eq_ok_iff] at resolves
  rcases resolves with ⟨nothing, rfl⟩ | ⟨call, nested, started, _, resolved⟩
  · have noneFound : (step.task batch owners).found store = [] := by
      simp only [Task.found, nothing]
    rw [noneFound]
    exact ⟨rfl, fun field _ => rfl⟩
  · have found : (step.task batch owners).found store =
        call.answer (store.records call.request.collection) := by
      simp only [Task.found, started]
    rw [found]
    exact ⟨Plan.length_resolved resolved, fun field intact =>
      Plan.read?_resolved (Adapter.spares_of_not_overwrites intact matched) resolved⟩

end Level

theorem Task.found_subset (step : Step) (batch : Batch) (owners : List Document) (store : Store) :
    (step.task batch owners).found store ⊆ step.targets store := by
  intro record member
  unfold found at member
  split at member
  · rename_i call nested started
    rcases Task.reads_of_start started with ⟨sameCollection, filter, ⟨_, answers⟩ | ⟨_, answers⟩⟩
    · rw [answers, sameCollection] at member
      exact List.mem_of_mem_filter member
    · rw [answers, sameCollection] at member
      exact List.mem_of_mem_filter (List.mem_of_head? (Option.mem_toList.mp member))
  · cases member

theorem Adapter.Offers.exists_loads {adapter : Adapter} {mapper : Mapper} {step : Step}
    (offered : adapter.Offers mapper step) {load : EagerLoad} {name : String}
    (selected : load.matched? step.relation.target step.relation.localField = some name)
    {batch : Batch} {owners : List Document} {store : Store} (nonempty : owners ≠ [])
    (resolves : Level.Resolves ⟨adapter.plan mapper load, batch, owners⟩ store) :
    ∃ related, Level.Loads ⟨adapter.plan mapper load, batch, owners⟩ store step related := by
  have known := resolves.ne_unknown nonempty
  apply (Level.exists_loads_iff nonempty resolves step).mpr
  exact ⟨_, (Plan.contains_ofRelations_iff known step _).mpr
    ⟨offered.declared, offered.toMakes, name, selected, rfl⟩⟩

theorem EagerLoad.exists_matched?_add {load : EagerLoad} {target field name : String}
    (selected : load.matched? target field = some name) (path : String) :
    ∃ other, (load.add path).matched? target field = some other := by
  have kept : ∀ listed, load.contains listed = true → (load.add path).contains listed = true := by
    intro listed contained
    rw [contains_iff] at contained ⊢
    exact ⟨contained.1, List.mem_append_left _ contained.2⟩
  unfold matched? at selected ⊢
  by_cases byTarget : load.contains target = true
  · exact ⟨target, if_pos (kept target byTarget)⟩
  · rw [if_neg byTarget] at selected
    split at selected
    · rename_i byField
      split
      · exact ⟨target, rfl⟩
      · exact ⟨field, if_pos (kept field byField)⟩
    · cases selected

/-- Where owners are given the records that list them, these are all that are found. -/
theorem Task.origins_of_listing {task : Task} (isListing : task.step.join.IsListing)
    {found related : List Document} (sameLength : related.length = found.length)
    (held : Option Value) : task.origins found related held = found := by
  rcases isListing with ⟨foreignKeys, join⟩
  have all : ∀ record, task.keeps held record = true := by
    intro record
    rw [keeps, join]
  have keptAll : task.kept found related held = found.zip related := by
    rw [kept, List.filter_eq_self]
    exact fun pair _ => all pair.2
  rw [origins, given, join, keptAll, List.map_fst_zip sameLength.ge]

/-! ## Deeper levels -/

/-- If a list of records is resolved with a list that selects a relation, and with an entry
added that goes on from its name, the relation finds the same stored records in both calls and
gives each owner the same ones in the same order.  The exception is that their compared fields
do not read the same, which takes a relation loaded below that is attached over this field. -/
theorem Adapter.deeper_loading_gives_same_origins {adapter : Adapter} {mapper : Mapper}
    {step : Step} (offered : adapter.Offers mapper step) {load : EagerLoad} {name : String}
    (selected : load.matched? step.relation.target step.relation.localField = some name)
    (rest : String) {pace deeperPace : Pace} {session : Session}
    {owners resolved deeperResolved : List Document}
    (resolves : ((adapter.resolveMany pace mapper owners load).outcome session).1 = .ok resolved)
    (deeperResolves : ((adapter.resolveMany deeperPace mapper owners
      (load.add (name ++ "." ++ rest))).outcome session).1 = .ok deeperResolved) :
    let task := step.task .many owners
    let found := task.found session.store
    let level : Level := ⟨adapter.plan mapper load, .many, owners⟩
    let deeperLevel : Level :=
      ⟨adapter.plan mapper (load.add (name ++ "." ++ rest)), .many, owners⟩
    found ⊆ step.targets session.store ∧
      (owners ≠ [] → (∃ related, level.Loads session.store step related) ∧
        ∃ deeperRelated, deeperLevel.Loads session.store step deeperRelated) ∧
      ∀ related deeperRelated, level.Loads session.store step related →
        deeperLevel.Loads session.store step deeperRelated →
        (∀ attached ∈ [related, deeperRelated],
          task.attachments attached = owners.map fun owner => step.join.give
            ((task.given found attached (owner.read? step.ownerField)).map Prod.snd)) ∧
        (step.join.IsListing ∨ related.map (·.read? step.relatedField) =
            deeperRelated.map (·.read? step.relatedField) →
          ∀ owner ∈ owners, task.origins found related (owner.read? step.ownerField) =
            task.origins found deeperRelated (owner.read? step.ownerField)) ∧
        (¬ adapter.Overwrites load step.relation step.target step.relatedField →
          ¬ adapter.Overwrites (load.add (name ++ "." ++ rest)) step.relation step.target
            step.relatedField →
          related.map (·.read? step.relatedField) =
            deeperRelated.map (·.read? step.relatedField)) := by
  intro task found level deeperLevel
  rw [resolveMany, outcome_resolve_eq_ok_iff] at resolves deeperResolves
  refine ⟨Task.found_subset step .many owners session.store, ?_, ?_⟩
  · intro nonempty
    rcases EagerLoad.exists_matched?_add selected (name ++ "." ++ rest) with ⟨other, deeper⟩
    exact ⟨offered.exists_loads selected nonempty ⟨resolved, resolves⟩,
      offered.exists_loads deeper nonempty ⟨deeperResolved, deeperResolves⟩⟩
  · intro related deeperRelated loads deeperLoads
    rcases loads.related_of_found with ⟨sameLength, sameFields⟩
    rcases deeperLoads.related_of_found with ⟨deeperLength, deeperFields⟩
    refine ⟨?_, ?_, ?_⟩
    · intro attached member
      have attachedLength : attached.length = found.length := by
        rcases List.mem_pair.mp member with rfl | rfl
        · exact sameLength
        · exact deeperLength
      rw [step.attachments_task]
      apply List.map_congr_left
      intro owner _
      exact (task.give_map_snd_given attachedLength _).symm
    · rintro (isListing | reads) owner _
      · rw [Task.origins_of_listing isListing sameLength,
          Task.origins_of_listing isListing deeperLength]
      · exact task.origins_congr _ found reads
    · intro intact deeperIntact
      rw [sameFields _ intact, deeperFields _ deeperIntact]

/-! ## A desk of editors -/

/-- The mapper of users, whose posts name them as authors. -/
def deskUser : Mapper :=
  ((Mapper.named "u").withTable "u").withRelation (.hasMany "p" "ps" "a.id")

/-- The mapper of posts, which get their editors attached over their authors. -/
def deskPost : Mapper :=
  ((Mapper.named "p").withTable "p").withRelation (.belongsTo "u" "a" "e")

def desk : Adapter where
  catalog := ⟨[deskPost, deskUser]⟩
  config := .default

def deskPosts : Step := ⟨.hasMany "p" "ps" "a.id", .children "a.id", deskPost, "id", "id"⟩

def deskUsers : List Document := [[("id", .string "1")], [("id", .string "2")]]

/-- A post by the second user that the first one edits. -/
def deskRecord : Document := [("a", .object [("id", .string "2")]), ("e", .string "1")]

/-- The post once its editor is attached. -/
def deskEdited : Document := [("a", .object [("id", .string "1")]), ("e", .string "1")]

def deskStore : Store where
  collections := [("u", deskUsers), ("p", [deskRecord])]
  unavailable := []
  log := []

set_option maxRecDepth 100000 in
/-- The author of a post loses it once its editor is loaded, which is attached over the field
that tells the author. -/
theorem deeper_loading_gives_same_origins_desk :
    ∃ related deeperRelated,
      Level.Loads ⟨desk.plan deskUser ⟨["ps"]⟩, .many, deskUsers⟩ deskStore deskPosts related ∧
      Level.Loads ⟨desk.plan deskUser ⟨["ps", "ps.a"]⟩, .many, deskUsers⟩ deskStore deskPosts
        deeperRelated ∧
      (deskPosts.task .many deskUsers).origins
        ((deskPosts.task .many deskUsers).found deskStore) related (some (.string "2")) =
          [deskRecord] ∧
      (deskPosts.task .many deskUsers).origins
        ((deskPosts.task .many deskUsers).found deskStore) deeperRelated (some (.string "2")) =
          [] ∧
      (desk.Overwrites ⟨["ps"]⟩ deskPosts.relation deskPost "a.id" ∨
        desk.Overwrites ⟨["ps", "ps.a"]⟩ deskPosts.relation deskPost "a.id") := by
  have offered : desk.Offers deskUser deskPosts := ⟨⟨by cbv, by cbv, by cbv, by cbv⟩, by decide⟩
  have selected : EagerLoad.matched? ⟨["ps"]⟩ deskPosts.relation.target
      deskPosts.relation.localField = some "ps" := by decide
  have gathers : ((desk.plan deskUser ⟨["ps"]⟩).gathered deskStore .many deskUsers).outcome =
      .ok [⟨deskPosts.task .many deskUsers, [deskRecord]⟩] := by
    cbv
  have deeperGathers : ((desk.plan deskUser ⟨["ps", "ps.a"]⟩).gathered deskStore .many
      deskUsers).outcome = .ok [⟨deskPosts.task .many deskUsers, [deskEdited]⟩] := by
    cbv
  have loads : Level.Loads ⟨desk.plan deskUser ⟨["ps"]⟩, .many, deskUsers⟩ deskStore deskPosts
      [deskRecord] := ⟨_, gathers, List.mem_singleton_self _⟩
  have deeperLoads : Level.Loads ⟨desk.plan deskUser ⟨["ps", "ps.a"]⟩, .many, deskUsers⟩
      deskStore deskPosts [deskEdited] := ⟨_, deeperGathers, List.mem_singleton_self _⟩
  have before : (deskPosts.task .many deskUsers).origins
      ((deskPosts.task .many deskUsers).found deskStore) [deskRecord] (some (.string "2")) =
        [deskRecord] := by
    cbv
  have after : (deskPosts.task .many deskUsers).origins
      ((deskPosts.task .many deskUsers).found deskStore) [deskEdited] (some (.string "2")) =
        [] := by
    cbv
  have resolves : ∀ (load : EagerLoad) (loaded : List Loaded),
      ((desk.plan deskUser load).gathered deskStore .many deskUsers).outcome = .ok loaded →
      ((desk.resolveMany .interleaved deskUser deskUsers load).outcome ⟨deskStore, []⟩).1 =
        .ok (Loaded.attachTo deskUsers loaded) := by
    intro load loaded gathered
    rw [Adapter.resolveMany, Adapter.outcome_resolve_eq_ok_iff,
      Plan.outcome_resolved_eq_ok_iff _ _ _ (by decide)]
    exact ⟨loaded, gathered, rfl⟩
  have same := (Adapter.deeper_loading_gives_same_origins offered selected "a"
    (resolves _ _ gathers) (resolves _ _ deeperGathers)).2.2 _ _ loads deeperLoads
  refine ⟨_, _, loads, deeperLoads, before, after, ?_⟩
  by_contra intact
  have reads := same.2.2 (fun first => intact (Or.inl first)) (fun second => intact (Or.inr second))
  have alike := same.2.1 (Or.inr reads) [("id", .string "2")] (by decide)
  have held : Document.read? [("id", .string "2")] deskPosts.ownerField = some (.string "2") := by
    decide
  rw [held, before, after] at alike
  cases alike

end RecordGraph
