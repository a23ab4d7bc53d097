import Mathlib
import RecordGraph.Proofs.EagerEntries
import RecordGraph.Proofs.Interleaving
import RecordGraph.Proofs.RelationQueries

/-!
# Failures to load

With a catalog that was checked, loading for a list of records fails for two reasons
only: several owners ask for the records that list them, or the collection of a
relation is unavailable.  A walk over the relations that an eager-load list selects
meets all such failures, each at its place, and loading stops at the first of them.
-/

namespace RecordGraph

/-! ## Catalogs that were checked -/

namespace Catalog

variable {catalog : Catalog}

/-- Every relation of a registered mapper has a registered target. -/
def Closed (catalog : Catalog) : Prop :=
  ∀ name mapper, catalog.get? name = some mapper →
    ∀ relation ∈ mapper.relations, catalog.get? relation.target ≠ none

theorem checked_of_forM {α : Type} {check : α → Except CatalogError Unit} {items : List α}
    (passes : items.forM check = .ok ()) {item : α} (member : item ∈ items) :
    check item = .ok () := by
  induction items with
  | nil => cases member
  | cons first rest inductionHypothesis =>
      have unfolded : (first :: rest).forM check = (check first).bind fun _ => rest.forM check :=
        rfl
      rw [unfolded] at passes
      cases checked : check first with
      | error error =>
          rw [checked] at passes
          cases passes
      | ok done =>
          rw [checked] at passes
          rcases List.mem_cons.mp member with rfl | inRest
          · exact checked
          · exact inductionHypothesis passes inRest

theorem closed_of_validate (valid : catalog.validate = .ok ()) : catalog.Closed := by
  intro name mapper registered relation member
  have listed : mapper ∈ catalog.mappers := List.mem_of_find?_eq_some registered
  have checked : catalog.checkRelation mapper relation = .ok () :=
    checked_of_forM (checked_of_forM valid listed) member
  intro missing
  rw [checkRelation, missing] at checked
  cases checked

/-- A catalog that was read from a text has passed the check. -/
theorem validate_of_ofText {text : String} (read : ofText text = .ok catalog) :
    catalog.validate = .ok () := by
  unfold ofText at read
  cases parsed : (Tree.parse? text).bind mappersOfTree? with
  | none =>
      rw [parsed] at read
      cases read
  | some mappers =>
      rw [parsed] at read
      simp only at read
      cases checked : (ofMappers mappers).validate with
      | error error =>
          rw [checked] at read
          cases read
      | ok done =>
          rw [checked] at read
          cases read
          exact checked

end Catalog

/-! ## Walking over the selected relations -/

/-- The records that the call of a task finds, if it makes one. -/
def Task.found (task : Task) (store : Store) : List Document :=
  match task.start with
  | .call call _ => call.answer (store.records call.request.collection)
  | _ => []

theorem Task.Finds.found_eq {task : Task} {nested : Batch} {condition : Value}
    (finds : task.Finds nested condition) (store : Store) :
    task.found store = task.matching store condition := by
  rcases finds with ⟨call, started, sameCollection, answers⟩
  rw [found, started, ← answers store, ← sameCollection]

/-- A step cannot be taken for the owners of a level. -/
inductive Step.Refused (step : Step) (store : Store) (owners : List Document) : AccessError → Prop
  /-- Several owners ask for the records that list them. -/
  | several {foreignKeys : String} (listing : step.join = .listing foreignKeys)
      (several : 1 < owners.length) :
      Refused step store owners
        (.unsupported step.relation.target foreignKeys owners.length)
  /-- A call is made, and calls on the collection fail. -/
  | unavailable (asks : ¬ (step.join.IsListing ∧ 1 < owners.length))
      (refused : step.target.collectionName none ∈ store.unavailable) :
      Refused step store owners (.unavailable (step.target.collectionName none))

namespace Adapter

/-- The relation of a mapper at an index is selected by a list and has a usable key; it
makes the given step, and leaves a list for the level below. -/
structure Selects (adapter : Adapter) (mapper : Mapper) (load : EagerLoad) (index : Nat)
    (step : Step) (below : EagerLoad) : Prop where
  declared : mapper.relations[index]? = some step.relation
  selected : ∃ name,
    load.matched? step.relation.target step.relation.localField = some name ∧
      below = load.descend adapter.config.prunePolicy name
  registered : adapter.catalog.get? step.relation.target = some step.target
  keyed : step.relation.join? = some step.join
  ownerIdentity : step.ownerIdentity = mapper.identity adapter.config.defaultIdAttribute
  targetIdentity : step.targetIdentity = step.target.identity adapter.config.defaultIdAttribute

/-- A walk over the selected relations, level by level, meets a step that cannot be taken.
Its place is told by the indices of the relations that lead to it. -/
inductive Meets (adapter : Adapter) (store : Store) :
    Mapper → EagerLoad → List Document → List Nat → AccessError → Prop
  | here {mapper : Mapper} {load below : EagerLoad} {owners : List Document} {index : Nat}
      {step : Step} {error : AccessError} (nonempty : owners ≠ [])
      (unexhausted : load.isExhausted = false)
      (selects : adapter.Selects mapper load index step below)
      (refused : step.Refused store owners error) :
      Meets adapter store mapper load owners [index] error
  | deeper {mapper : Mapper} {load below : EagerLoad} {owners : List Document} {index : Nat}
      {step : Step} {place : List Nat} {error : AccessError} (nonempty : owners ≠ [])
      (unexhausted : load.isExhausted = false)
      (selects : adapter.Selects mapper load index step below)
      (taken : ∀ refusal, ¬ step.Refused store owners refusal)
      (meets : Meets adapter store step.target below ((step.task .many owners).found store)
        place error) :
      Meets adapter store mapper load owners (index :: place) error

namespace Selects

variable {adapter : Adapter} {mapper : Mapper} {load : EagerLoad} {index : Nat}
  {step other : Step} {below otherBelow : EagerLoad}

theorem unexhausted (selects : adapter.Selects mapper load index step below) :
    load.isExhausted = false := by
  rcases selects.selected with ⟨name, matched, _⟩
  by_cases exhausted : load.isExhausted = true
  · rw [EagerLoad.matched?_of_isExhausted exhausted] at matched
    cases matched
  · exact Bool.not_eq_true _ ▸ exhausted

theorem unique (first : adapter.Selects mapper load index step below)
    (second : adapter.Selects mapper load index other otherBelow) :
    step = other ∧ below = otherBelow := by
  rcases step with ⟨relation, join, target, ownerIdentity, targetIdentity⟩
  rcases other with ⟨otherRelation, otherJoin, otherTarget, _, _⟩
  have sameRelation : relation = otherRelation :=
    Option.some.inj (first.declared.symm.trans second.declared)
  subst sameRelation
  have sameJoin : join = otherJoin := Option.some.inj (first.keyed.symm.trans second.keyed)
  subst sameJoin
  have sameTarget : target = otherTarget :=
    Option.some.inj (first.registered.symm.trans second.registered)
  subst sameTarget
  constructor
  · rw [Step.mk.injEq]
    exact ⟨rfl, rfl, rfl, first.ownerIdentity.trans second.ownerIdentity.symm,
      first.targetIdentity.trans second.targetIdentity.symm⟩
  · rcases first.selected with ⟨name, matched, descends⟩
    rcases second.selected with ⟨otherName, otherMatched, otherDescends⟩
    have sameName : name = otherName := Option.some.inj (matched.symm.trans otherMatched)
    rw [descends, otherDescends, sameName]

end Selects

end Adapter

/-! ### One step -/

namespace Step

variable {step : Step} {store : Store} {owners : List Document}

/-- Unless several owners ask for the records that list them, a call is made for stored
records of the target. -/
theorem exists_finds (asks : ¬ (step.join.IsListing ∧ 1 < owners.length)) :
    ∃ condition, (step.task .many owners).Finds .many condition := by
  by_cases isListing : step.join.IsListing
  · have few : (step.task .many owners).keys.length ≤ 1 := by
      rw [Step.task, List.length_map]
      exact Nat.le_of_not_lt fun several => asks ⟨isListing, several⟩
    exact ⟨_, Task.finds_listing isListing few⟩
  · rcases (step.task .many owners).finds_keys (Or.inl ⟨rfl, isListing⟩) with ⟨_, finds, _⟩
    exact ⟨_, finds⟩

theorem outcome_related_of_refused {error : AccessError}
    (refused : step.Refused store owners error)
    (below : Batch → List Document → Transcript (List Document)) :
    ((step.task .many owners).related store below).outcome = .error error := by
  cases refused with
  | several listing several =>
      have sameLength : (step.task .many owners).keys.length = owners.length := by
        rw [Step.task, List.length_map]
      rw [Task.related, Task.start_listing_of_many _ listing (by rwa [sameLength]), sameLength]
      rfl
  | unavailable asks refused =>
      rcases exists_finds asks with ⟨condition, call, started, sameCollection, _⟩
      have isRefused : call.request.collection ∈ store.unavailable := by
        rw [sameCollection]
        exact refused
      rw [Task.related, started, Transcript.outcome_andThen, Store.reply, if_pos isRefused,
        sameCollection]
      rfl

theorem outcome_related_of_taken (taken : ∀ error, ¬ step.Refused store owners error)
    (below : Batch → List Document → Transcript (List Document)) :
    ((step.task .many owners).related store below).outcome =
      (below .many ((step.task .many owners).found store)).outcome := by
  have asks : ¬ (step.join.IsListing ∧ 1 < owners.length) := by
    rintro ⟨⟨foreignKeys, listing⟩, several⟩
    exact taken _ (.several listing several)
  have accepted : step.target.collectionName none ∉ store.unavailable :=
    fun refused => taken _ (.unavailable asks refused)
  rcases exists_finds asks with ⟨condition, call, started, sameCollection, _⟩
  have isAccepted : call.request.collection ∉ store.unavailable := by
    rw [sameCollection]
    exact accepted
  rw [Task.related, Task.found, started, Transcript.outcome_andThen,
    Store.outcome_reply isAccepted]
  rfl

/-- A step that asks for keys finds the stored records whose field is or contains a truthy
key of an owner. -/
theorem mem_found_iff (notListing : ¬ step.join.IsListing) (record : Document) :
    record ∈ (step.task .many owners).found store ↔
      record ∈ store.records (step.target.collectionName none) ∧
        step.relatedField ≠ alternativesKey ∧
        ∃ key, (step.task .many owners).AsksFor key ∧
          IsOrContains (record.read? step.relatedField) key := by
  rcases (step.task .many owners).finds_keys (Or.inl ⟨rfl, notListing⟩) with
    ⟨keys, finds, asked⟩
  rw [finds.found_eq store]
  exact Task.mem_matching_keys_iff asked store record

theorem Refused.unique {error other : AccessError} (first : step.Refused store owners error)
    (second : step.Refused store owners other) : error = other := by
  have same := (outcome_related_of_refused first fun _ _ => .ok []).symm.trans
    (outcome_related_of_refused second fun _ _ => .ok [])
  exact Except.error.inj same

end Step

/-! ### One place -/

namespace Adapter

section

variable {adapter : Adapter} {store : Store} {mapper : Mapper} {load below : EagerLoad}
  {owners : List Document} {index : Nat} {step : Step} {place : List Nat} {error : AccessError}

theorem Meets.exists_selects (meets : adapter.Meets store mapper load owners place error) :
    ∃ index rest step below, place = index :: rest ∧
      adapter.Selects mapper load index step below := by
  cases meets with
  | here _ _ selects _ => exact ⟨_, [], _, _, rfl, selects⟩
  | deeper _ _ selects _ _ => exact ⟨_, _, _, _, rfl, selects⟩

/-- Failures at and below an index are those of a relation that is selected and has a usable
key. -/
theorem Meets.of_declared {relation : Relation}
    (meets : adapter.Meets store mapper load owners (index :: place) error)
    (declared : mapper.relations[index]? = some relation) :
    load.matched? relation.target relation.localField ≠ none ∧ relation.join? ≠ none := by
  rcases meets.exists_selects with ⟨_, _, step, below, same, selects⟩
  cases same
  have sameRelation := Option.some.inj (declared.symm.trans selects.declared)
  rcases selects.selected with ⟨name, matched, _⟩
  rw [sameRelation, matched, selects.keyed]
  exact ⟨Option.some_ne_none name, Option.some_ne_none step.join⟩

theorem Meets.nonempty (meets : adapter.Meets store mapper load owners place error) :
    owners ≠ [] := by
  cases meets with
  | here nonempty _ _ _ => exact nonempty
  | deeper nonempty _ _ _ _ => exact nonempty

/-- Below a step that is taken, the walk goes on with the records found. -/
theorem meets_cons_iff (nonempty : owners ≠ [])
    (selects : adapter.Selects mapper load index step below)
    (taken : ∀ refusal, ¬ step.Refused store owners refusal) :
    adapter.Meets store mapper load owners (index :: place) error ↔
      adapter.Meets store step.target below ((step.task .many owners).found store) place
        error := by
  constructor
  · intro meets
    cases meets with
    | here _ _ selected refused =>
        rcases selects.unique selected with ⟨rfl, _⟩
        exact absurd refused (taken error)
    | deeper _ _ selected _ meetsBelow =>
        rcases selects.unique selected with ⟨rfl, rfl⟩
        exact meetsBelow
  · exact .deeper nonempty selects.unexhausted selects taken

/-- There is no more than one failure at a place. -/
theorem Meets.unique {other : AccessError}
    (first : adapter.Meets store mapper load owners place error)
    (second : adapter.Meets store mapper load owners place other) : error = other := by
  induction first with
  | here nonempty _ selects refused =>
      cases second with
      | here _ _ selected otherRefused =>
          rcases selects.unique selected with ⟨rfl, _⟩
          exact refused.unique otherRefused
      | deeper _ _ selected taken _ =>
          rcases selects.unique selected with ⟨rfl, _⟩
          exact absurd refused (taken _)
  | deeper nonempty _ selects taken _ inductionHypothesis =>
      exact inductionHypothesis ((meets_cons_iff nonempty selects taken).mp second)

end

end Adapter

/-! ## Stopping at the first failure -/

/-- An outcome is no failure if no failures are met, and is the first of them otherwise. -/
def StopsAtFirst {α : Type} (met : List Nat → AccessError → Prop) : Except AccessError α → Prop
  | .ok _ => ∀ place error, ¬ met place error
  | .error error =>
      ∃ place, met place error ∧
        ∀ other failure, met other failure → other ≠ place → Precedes place other

/-- The failures that are met at an index or after it. -/
def MetFrom (index : Nat) (met : List Nat → AccessError → Prop) (place : List Nat)
    (error : AccessError) : Prop :=
  met place error ∧ ∃ first rest, place = first :: rest ∧ index ≤ first

namespace StopsAtFirst

variable {α β : Type} {met other : List Nat → AccessError → Prop} {outcome : Except AccessError α}

theorem congr (stops : StopsAtFirst met outcome)
    (same : ∀ place error, other place error ↔ met place error) : StopsAtFirst other outcome := by
  have equal : other = met :=
    funext fun place => funext fun error => propext (same place error)
  rwa [equal]

theorem map (stops : StopsAtFirst met outcome) (change : α → β) :
    StopsAtFirst met (outcome.map change) := by
  cases outcome with
  | error error => exact stops
  | ok result => exact stops

/-- Where nothing is met at an index, everything is met after it. -/
theorem skip {index : Nat} (notMet : ∀ place error, ¬ met (index :: place) error)
    (stops : StopsAtFirst (MetFrom (index + 1) met) outcome) :
    StopsAtFirst (MetFrom index met) outcome := by
  apply stops.congr
  intro place error
  constructor
  · rintro ⟨isMet, first, rest, rfl, fromIndex⟩
    by_cases atIndex : index = first
    · subst atIndex
      exact absurd isMet (notMet rest error)
    · exact ⟨isMet, first, rest, rfl, by omega⟩
  · rintro ⟨isMet, first, rest, rfl, after⟩
    exact ⟨isMet, first, rest, rfl, by omega⟩

/-- What is met at an index comes before what is met after it. -/
theorem bind {index : Nat} {next : α → Except AccessError β}
    (first : StopsAtFirst (fun place error => met (index :: place) error) outcome)
    (later : ∀ result, StopsAtFirst (MetFrom (index + 1) met) (next result)) :
    StopsAtFirst (MetFrom index met) (outcome.bind next) := by
  cases outcome with
  | ok result => exact (later result).skip first
  | error error =>
      rcases first with ⟨place, isMet, precedes⟩
      refine ⟨index :: place, ⟨isMet, index, place, rfl, Nat.le_refl index⟩, ?_⟩
      rintro other failure ⟨otherMet, otherFirst, rest, rfl, fromIndex⟩ different
      rw [cons_precedes_cons_iff]
      by_cases atIndex : index = otherFirst
      · subst atIndex
        have parts : rest ≠ place := fun same => different (by rw [same])
        exact Or.inr ⟨rfl, precedes rest failure otherMet parts⟩
      · exact Or.inl (by omega)

theorem exists_error_iff (stops : StopsAtFirst met outcome) :
    (∃ error, outcome = .error error) ↔ ∃ place error, met place error := by
  cases outcome with
  | error error =>
      rcases stops with ⟨place, isMet, _⟩
      exact ⟨fun _ => ⟨place, error, isMet⟩, fun _ => ⟨error, rfl⟩⟩
  | ok result =>
      constructor
      · rintro ⟨error, impossible⟩
        cases impossible
      · rintro ⟨place, error, isMet⟩
        exact absurd isMet (stops place error)

theorem eq_error_iff (stops : StopsAtFirst met outcome)
    (unique : ∀ place error failure, met place error → met place failure → error = failure)
    (error : AccessError) :
    outcome = .error error ↔
      ∃ place, met place error ∧
        ∀ other failure, met other failure → other ≠ place → Precedes place other := by
  constructor
  · intro fails
    rwa [fails] at stops
  · rintro ⟨place, isMet, precedes⟩
    cases outcome with
    | ok result => exact absurd isMet (stops place error)
    | error first =>
        rcases stops with ⟨firstPlace, firstMet, firstPrecedes⟩
        by_cases samePlace : firstPlace = place
        · rw [samePlace] at firstMet
          rw [unique place error first isMet firstMet]
        · have before := precedes firstPlace first firstMet samePlace
          exact absurd (firstPrecedes place error isMet (Ne.symm samePlace)) before.asymm

end StopsAtFirst

/-! ## Loading stops at the first failure of the walk -/

namespace Plan

theorem cons_of_ne_unknown {step : Step} {below : Unit → Plan} {rest : Plan}
    (known : ∀ target, rest ≠ .unknown target) : cons step below rest = .load step below rest := by
  cases rest with
  | done => rfl
  | unknown target => exact absurd rfl (known target)
  | load _ _ _ => rfl

theorem ofRelations_ne_unknown {catalog : Catalog} (config : Config) (mapper : Mapper)
    (load : EagerLoad) {relations : List Relation}
    (registered : ∀ relation ∈ relations, catalog.get? relation.target ≠ none) :
    ∀ target, ofRelations catalog config mapper load relations ≠ .unknown target := by
  induction relations with
  | nil =>
      intro target impossible
      rw [ofRelations] at impossible
      cases impossible
  | cons relation rest inductionHypothesis =>
      have registeredRest : ∀ other ∈ rest, catalog.get? other.target ≠ none :=
        fun other member => registered other (List.mem_cons_of_mem _ member)
      have known := inductionHypothesis registeredRest
      rw [ofRelations_cons]
      cases load.matched? relation.target relation.localField with
      | none => exact known
      | some name =>
          cases found : catalog.get? relation.target with
          | none => exact absurd found (registered relation List.mem_cons_self)
          | some targetMapper =>
              cases relation.join? with
              | none => exact known
              | some join =>
                  intro target impossible
                  simp only [cons_of_ne_unknown known] at impossible
                  cases impossible

theorem outcome_resolved_of_ne_nil (plan : Plan) (store : Store) (batch : Batch)
    {owners : List Document} (nonempty : owners ≠ []) :
    (plan.resolved store batch owners).outcome =
      (plan.gathered store batch owners).outcome.map (Loaded.attachTo owners) := by
  have notEmpty : owners.isEmpty = false := List.isEmpty_eq_false_iff.mpr nonempty
  rw [resolved, attached, notEmpty, if_neg Bool.false_ne_true, Transcript.outcome_andThen]
  cases (plan.gathered store batch owners).outcome <;> rfl

/-- The failures met on a level are those of its relations, or there are none if it has no
owners. -/
theorem stopsAtFirst_resolved {adapter : Adapter} {store : Store} {mapper : Mapper}
    {load : EagerLoad} {owners : List Document} {plan : Plan}
    (gathers : owners ≠ [] → StopsAtFirst (MetFrom 0 (adapter.Meets store mapper load owners))
      (plan.gathered store .many owners).outcome) :
    StopsAtFirst (adapter.Meets store mapper load owners)
      (plan.resolved store .many owners).outcome := by
  by_cases empty : owners = []
  · subst empty
    intro place error meets
    exact meets.nonempty rfl
  · rw [plan.outcome_resolved_of_ne_nil store .many empty]
    apply ((gathers empty).map _).congr
    intro place error
    constructor
    · intro meets
      rcases meets.exists_selects with ⟨index, rest, _, _, rfl, _⟩
      exact ⟨meets, index, rest, rfl, Nat.zero_le index⟩
    · exact And.left

/-- Loading a selected relation stops at the first failure at its index, or below it. -/
theorem stopsAtFirst_related {adapter : Adapter} {store : Store} {mapper : Mapper}
    {load below : EagerLoad} {index : Nat} {step : Step} {owners : List Document} {plan : Plan}
    (nonempty : owners ≠ []) (selects : adapter.Selects mapper load index step below)
    (belowStops : StopsAtFirst
      (adapter.Meets store step.target below ((step.task .many owners).found store))
      (plan.resolved store .many ((step.task .many owners).found store)).outcome) :
    StopsAtFirst (fun place error => adapter.Meets store mapper load owners (index :: place) error)
      ((step.task .many owners).related store fun nested found =>
        plan.resolved store nested found).outcome := by
  by_cases refused : ∃ error, step.Refused store owners error
  · rcases refused with ⟨error, refused⟩
    rw [Step.outcome_related_of_refused refused]
    refine ⟨[], .here nonempty selects.unexhausted selects refused, ?_⟩
    intro other failure _ different
    rcases List.exists_cons_of_ne_nil different with ⟨position, place, rfl⟩
    exact nil_precedes_cons position place
  · have taken := not_exists.mp refused
    rw [Step.outcome_related_of_taken taken]
    apply belowStops.congr
    intro place error
    exact Adapter.meets_cons_iff nonempty selects taken

theorem declared_of_drop {relations rest : List Relation} {relation : Relation} {index : Nat}
    (remain : relations.drop index = relation :: rest) :
    relations[index]? = some relation ∧ relations.drop (index + 1) = rest := by
  constructor
  · rw [← List.head?_drop, remain]
    rfl
  · rw [← List.tail_drop, remain]
    rfl

theorem outcome_gathered_cons (store : Store) (batch : Batch) (owners : List Document)
    (step : Step) (below : Unit → Plan) (rest : Plan) :
    ((load step below rest).gathered store batch owners).outcome =
      ((step.task batch owners).related store fun nested found =>
        (below ()).resolved store nested found).outcome.bind fun related =>
          (rest.gathered store batch owners).outcome.map
            (⟨step.task batch owners, related⟩ :: ·) := by
  simp only [gathered, resolved, Transcript.outcome_andThen]
  rfl

theorem stopsAtFirst_gathered {adapter : Adapter} (closed : adapter.catalog.Closed)
    (store : Store) {mapperName : String} {mapper : Mapper}
    (known : adapter.catalog.get? mapperName = some mapper) (load : EagerLoad)
    {relations : List Relation} {index : Nat} (remain : mapper.relations.drop index = relations)
    {owners : List Document} (nonempty : owners ≠ []) :
    StopsAtFirst (MetFrom index (adapter.Meets store mapper load owners))
      ((ofRelations adapter.catalog adapter.config mapper load relations).gathered store .many
        owners).outcome := by
  -- Places count all relations of the mapper, also those that the plan leaves out, so the
  -- induction carries along how many of them it has passed.
  fun_induction ofRelations adapter.catalog adapter.config mapper load relations
    generalizing mapperName index owners with
  | case1 mapper load =>
      rintro place error ⟨meets, first, rest, rfl, fromIndex⟩
      rcases meets.exists_selects with ⟨_, _, step, below, same, selects⟩
      cases same
      have inRange := (List.getElem?_eq_some_iff.mp selects.declared).1
      have atEnd := List.drop_eq_nil_iff.mp remain
      omega
  | case2 mapper load relation rest unselected restHypothesis =>
      rcases declared_of_drop remain with ⟨declared, remains⟩
      apply (restHypothesis known remains nonempty).skip
      intro place error meets
      exact (meets.of_declared declared).1 unselected
  | case3 mapper load relation rest name selected unregistered =>
      have member : relation ∈ mapper.relations := by
        apply List.mem_of_mem_drop
        rw [remain]
        exact List.mem_cons_self
      exact absurd unregistered (closed mapperName mapper known relation member)
  | case4 mapper load relation rest name selected target registered keyless restHypothesis =>
      rcases declared_of_drop remain with ⟨declared, remains⟩
      apply (restHypothesis known remains nonempty).skip
      intro place error meets
      exact (meets.of_declared declared).2 keyless
  | case5 mapper load relation rest name selected target registered join joined step below
      belowHypothesis =>
      rename_i restHypothesis
      rcases declared_of_drop remain with ⟨declared, remains⟩
      have selects : adapter.Selects mapper load index step below :=
        ⟨declared, ⟨name, selected, rfl⟩, registered, joined, rfl, rfl⟩
      have restKnown : ∀ other ∈ rest, adapter.catalog.get? other.target ≠ none := by
        intro other member
        rw [← remains] at member
        exact closed mapperName mapper known other (List.mem_of_mem_drop member)
      rw [cons_of_ne_unknown (ofRelations_ne_unknown _ mapper load restKnown),
        outcome_gathered_cons]
      apply StopsAtFirst.bind
      · apply stopsAtFirst_related nonempty selects
        exact stopsAtFirst_resolved (belowHypothesis registered rfl)
      · intro related
        exact (restHypothesis known remains nonempty).map _

end Plan

namespace Adapter

variable {adapter : Adapter} {name : String} {mapper : Mapper}

/-- No walk meets anything else than several owners of a listing relation, or an
unavailable collection. -/
theorem Meets.reason {store : Store} {load : EagerLoad} {owners : List Document}
    {place : List Nat} {error : AccessError}
    (meets : adapter.Meets store mapper load owners place error) :
    (∃ target foreignKeys count, error = .unsupported target foreignKeys count) ∨
      ∃ collection ∈ store.unavailable, error = .unavailable collection := by
  induction meets with
  | here _ _ _ refused =>
      cases refused with
      | several => exact Or.inl ⟨_, _, _, rfl⟩
      | unavailable _ isUnavailable => exact Or.inr ⟨_, isUnavailable, rfl⟩
  | deeper _ _ _ _ _ inductionHypothesis => exact inductionHypothesis

/-- With a catalog that was checked, or read from a text, resolving a list of records of a
registered mapper fails if and only if the walk meets a failure.  The error is the first one
met, in the order of places, and so never a missing mapper or a missing record. -/
theorem resolveMany_stops_at_first
    (accepted : adapter.catalog.validate = .ok () ∨
      ∃ text, Catalog.ofText text = .ok adapter.catalog)
    (registered : adapter.catalog.get? name = some mapper) (owners : List Document)
    (load : EagerLoad) (session : Session) :
    ((∃ error, ((adapter.resolveMany .direct mapper owners load).outcome session).1 =
          .error error) ↔
        ∃ place error, adapter.Meets session.store mapper load owners place error) ∧
      ∀ error : AccessError,
        (((adapter.resolveMany .direct mapper owners load).outcome session).1 = .error error ↔
          ∃ place, adapter.Meets session.store mapper load owners place error ∧
            ∀ other failure, adapter.Meets session.store mapper load owners other failure →
              other ≠ place → Precedes place other) ∧
        (((adapter.resolveMany .direct mapper owners load).outcome session).1 = .error error →
          (∃ target foreignKeys count, error = .unsupported target foreignKeys count) ∨
            ∃ collection ∈ session.store.unavailable, error = .unavailable collection) := by
  have closed : adapter.catalog.Closed := by
    rcases accepted with valid | ⟨text, read⟩
    · exact Catalog.closed_of_validate valid
    · exact Catalog.closed_of_validate (Catalog.validate_of_ofText read)
  have follows := (adapter.follows_resolve session.store .many mapper owners load).outcome_eq rfl
  have stops : StopsAtFirst (adapter.Meets session.store mapper load owners)
      ((adapter.resolveMany .direct mapper owners load).outcome session).1 := by
    rw [resolveMany, follows]
    exact Plan.stopsAtFirst_resolved
      (Plan.stopsAtFirst_gathered closed session.store registered load rfl)
  refine ⟨stops.exists_error_iff, fun error => ?_⟩
  have first := stops.eq_error_iff (fun place error failure => Meets.unique) error
  refine ⟨first, fun fails => ?_⟩
  rcases first.mp fails with ⟨place, meets, _⟩
  exact meets.reason

end Adapter

set_option maxRecDepth 100000 in
theorem resolveMany_stops_at_first_magazine :
    magazine.catalog.validate = .ok () ∧
      magazine.catalog.get? "w" = some magazineWriter ∧
      ∃ place, magazine.Meets { magazineStore with unavailable := ["d", "n"] } magazineWriter
          ⟨["at", "as", "as.ns"]⟩ (magazineStore.records "w") place (.unavailable "n") ∧
        ∀ other failure, magazine.Meets { magazineStore with unavailable := ["d", "n"] }
          magazineWriter ⟨["at", "as", "as.ns"]⟩ (magazineStore.records "w") other failure →
            other ≠ place → Precedes place other := by
  have valid : magazine.catalog.validate = .ok () := by cbv
  have registered : magazine.catalog.get? "w" = some magazineWriter := by cbv
  have fails : ((magazine.resolveMany .direct magazineWriter (magazineStore.records "w")
      ⟨["at", "as", "as.ns"]⟩).outcome
        ⟨{ magazineStore with unavailable := ["d", "n"] }, []⟩).1 = .error (.unavailable "n") := by
    cbv
  have stops := Adapter.resolveMany_stops_at_first (Or.inl valid) registered
    (magazineStore.records "w") ⟨["at", "as", "as.ns"]⟩
    ⟨{ magazineStore with unavailable := ["d", "n"] }, []⟩
  exact ⟨valid, registered, ((stops.2 _).1).mp fails⟩

end RecordGraph
