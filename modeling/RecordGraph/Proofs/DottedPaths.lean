import RecordGraph.Proofs.Attachments
import RecordGraph.Proofs.EagerEntries
import RecordGraph.Proofs.InterleavingOutcome
import RecordGraph.Proofs.LoadFailures

/-!
# Dotted paths

A dotted path in an eager-load list asks for a chain of relations, each on the records of
the one before it.  What is left of a list below a chain of names is spelled out in the
entries that begin with these names, also where names contain dots themselves.
-/

namespace RecordGraph

namespace EagerLoad

/-! ## Below a chain of names -/

/-- The list below a chain of names, with the prune policy that is used at each of them. -/
def descendAll (load : EagerLoad) (passed : List (PrunePolicy × String)) : EagerLoad :=
  passed.foldl (fun left entry => left.descend entry.1 entry.2) load

/-- The path that leads along some names. -/
def path (names : List String) : String := ".".intercalate names

/-- The list has the path that leads along some names, none of which is empty. -/
def Spells (load : EagerLoad) (names : List String) : Prop :=
  (∀ name ∈ names, name ≠ "") ∧ path names ∈ load.entries

instance (load : EagerLoad) (names : List String) : Decidable (load.Spells names) :=
  inferInstanceAs (Decidable ((∀ name ∈ names, name ≠ "") ∧ path names ∈ load.entries))

theorem path_cons (name : String) {names : List String} (further : names ≠ []) :
    path (name :: names) = name ++ "." ++ path names :=
  String.intercalate_cons_of_ne_nil further

theorem path_ne_empty (names : List String) {last : String} (nonempty : last ≠ "") :
    path (names ++ [last]) ≠ "" := by
  cases names with
  | nil => simpa [path] using nonempty
  | cons name names =>
      rw [List.cons_append, path_cons name (by simp)]
      exact append_dot_ne_empty name _

theorem mem_descendAll_iff (load : EagerLoad) (passed : List (PrunePolicy × String))
    {last : String} (nonempty : last ≠ "") :
    last ∈ (load.descendAll passed).entries ↔
      path (passed.map Prod.snd ++ [last]) ∈ load.entries := by
  induction passed generalizing load with
  | nil => simp [descendAll, path]
  | cons entry passed inductionHypothesis =>
      rcases entry with ⟨policy, name⟩
      have further : passed.map Prod.snd ++ [last] ≠ [] := by simp
      have onePassed : load.descendAll ((policy, name) :: passed) =
          (load.descend policy name).descendAll passed := rfl
      rw [onePassed, inductionHypothesis,
        mem_descend_iff load policy name (path_ne_empty _ nonempty), List.map_cons,
        List.cons_append, path_cons name further]

theorem contains_descendAll_iff (load : EagerLoad) (passed : List (PrunePolicy × String))
    (last : String) :
    (load.descendAll passed).contains last = true ↔
      last ≠ "" ∧ path (passed.map Prod.snd ++ [last]) ∈ load.entries := by
  rw [contains_iff]
  exact and_congr_right fun nonempty => load.mem_descendAll_iff passed nonempty

/-! ## Asking along a chain -/

/-- The name that asks for a relation below some names: that of its target if the path along
it is listed, or else that of its field. -/
def askedName (load : EagerLoad) (passed : List String) (relation : Relation) : String :=
  if load.Spells (passed ++ [relation.target]) then relation.target else relation.localField

/-- Below some names, a list asks for every relation of a chain. -/
def AsksAlong (load : EagerLoad) : List String → List Relation → Prop
  | _, [] => True
  | passed, relation :: rest =>
      load.Spells (passed ++ [load.askedName passed relation]) ∧
        load.AsksAlong (passed ++ [load.askedName passed relation]) rest

instance decidableAsksAlong (load : EagerLoad) :
    ∀ (passed : List String) (relations : List Relation),
      Decidable (load.AsksAlong passed relations)
  | _, [] => .isTrue trivial
  | passed, relation :: rest =>
      have := decidableAsksAlong load (passed ++ [load.askedName passed relation]) rest
      inferInstanceAs (Decidable (_ ∧ _))

/-- The list below a chain of names, with one prune policy for all of them. -/
def leftBelow (load : EagerLoad) (policy : PrunePolicy) (passed : List String) : EagerLoad :=
  load.descendAll (passed.map fun name => (policy, name))

theorem leftBelow_append (load : EagerLoad) (policy : PrunePolicy) (passed : List String)
    (name : String) :
    load.leftBelow policy (passed ++ [name]) =
      (load.leftBelow policy passed).descend policy name := by
  simp [leftBelow, descendAll]

theorem contains_leftBelow_iff (load : EagerLoad) (policy : PrunePolicy) {passed : List String}
    (named : ∀ name ∈ passed, name ≠ "") (last : String) :
    (load.leftBelow policy passed).contains last = true ↔ load.Spells (passed ++ [last]) := by
  have names : (passed.map fun name => (policy, name)).map Prod.snd = passed := by simp
  rw [leftBelow, contains_descendAll_iff, names, Spells, List.forall_mem_append,
    List.forall_mem_singleton]
  constructor
  · rintro ⟨nonempty, listed⟩
    exact ⟨⟨named, nonempty⟩, listed⟩
  · rintro ⟨⟨_, nonempty⟩, listed⟩
    exact ⟨nonempty, listed⟩

/-- A relation is selected below some names under the name that asks for it, if there is
one. -/
theorem matched?_leftBelow_eq_some_iff (load : EagerLoad) (policy : PrunePolicy)
    {passed : List String} (named : ∀ name ∈ passed, name ≠ "") (relation : Relation)
    (name : String) :
    (load.leftBelow policy passed).matched? relation.target relation.localField = some name ↔
      name = load.askedName passed relation ∧ load.Spells (passed ++ [name]) := by
  unfold matched? askedName
  simp only [load.contains_leftBelow_iff policy named]
  by_cases byTarget : load.Spells (passed ++ [relation.target])
  · rw [if_pos byTarget, if_pos byTarget, Option.some.injEq]
    constructor
    · rintro rfl
      exact ⟨rfl, byTarget⟩
    · rintro ⟨rfl, _⟩
      rfl
  · rw [if_neg byTarget, if_neg byTarget]
    by_cases byField : load.Spells (passed ++ [relation.localField])
    · rw [if_pos byField, Option.some.injEq]
      constructor
      · rintro rfl
        exact ⟨rfl, byField⟩
      · rintro ⟨rfl, _⟩
        rfl
    · rw [if_neg byField]
      constructor
      · intro impossible
        cases impossible
      · rintro ⟨rfl, spelled⟩
        exact absurd spelled byField

end EagerLoad

/-! ## Steps of a plan -/

/-- A step is how a relation is loaded onto the records of a mapper: the relation has a
registered target and a usable key. -/
structure Adapter.Makes (adapter : Adapter) (mapper : Mapper) (step : Step) : Prop where
  registered : adapter.catalog.get? step.relation.target = some step.target
  keyed : step.relation.join? = some step.join
  ownerIdentity : step.ownerIdentity = mapper.identity adapter.config.defaultIdAttribute
  targetIdentity : step.targetIdentity = step.target.identity adapter.config.defaultIdAttribute

/-- The step of a relation of the mapper. -/
structure Adapter.Offers (adapter : Adapter) (mapper : Mapper) (step : Step) : Prop
    extends adapter.Makes mapper step where
  declared : step.relation ∈ mapper.relations

/-- A relation of a mapper is loaded in one way. -/
theorem Adapter.Makes.eq_of_relation {adapter : Adapter} {mapper : Mapper} {first second : Step}
    (makes : adapter.Makes mapper first) (makesOther : adapter.Makes mapper second)
    (sameRelation : first.relation = second.relation) : first = second := by
  rcases first with ⟨relation, join, target, ownerIdentity, targetIdentity⟩
  rcases second with ⟨other, otherJoin, otherTarget, otherOwner, otherIdentity⟩
  cases sameRelation
  rcases makes with ⟨registered, keyed, owned, identified⟩
  rcases makesOther with ⟨otherRegistered, otherKeyed, otherOwned, otherIdentified⟩
  have joins : join = otherJoin := Option.some.inj (keyed.symm.trans otherKeyed)
  have targets : target = otherTarget := Option.some.inj (registered.symm.trans otherRegistered)
  cases targets
  cases joins
  cases owned.trans otherOwned.symm
  cases identified.trans otherIdentified.symm
  rfl

namespace Plan

variable {adapter : Adapter} {mapper : Mapper} {load : EagerLoad}

theorem ne_unknown_of_cons {step : Step} {below : Unit → Plan} {rest : Plan}
    (known : ∀ target, cons step below rest ≠ .unknown target) :
    ∀ target, rest ≠ .unknown target := by
  rintro target rfl
  exact known target rfl

theorem contains_load_iff {first : Step} {below : Unit → Plan} {rest : Plan} (step : Step)
    (nested : Plan) :
    (Plan.load first below rest).Contains step nested ↔
      (step = first ∧ nested = below ()) ∨ rest.Contains step nested := by
  constructor
  · intro contained
    cases contained with
    | here => exact Or.inl ⟨rfl, rfl⟩
    | later further => exact Or.inr further
  · rintro (⟨rfl, rfl⟩ | further)
    · exact .here step below rest
    · exact .later further

/-- In a plan without unregistered targets, a relation is left out if it is not selected or has
no key, and comes before the rest otherwise. -/
theorem ofRelations_cons_of_known {relation : Relation} {rest : List Relation}
    (known : ∀ target, ofRelations adapter.catalog adapter.config mapper load
      (relation :: rest) ≠ .unknown target) :
    (∀ target, ofRelations adapter.catalog adapter.config mapper load rest ≠ .unknown target) ∧
    (load.matched? relation.target relation.localField ≠ none →
      ∃ target, adapter.catalog.get? relation.target = some target) ∧
    ((load.matched? relation.target relation.localField = none ∨ relation.join? = none) ∧
        ofRelations adapter.catalog adapter.config mapper load (relation :: rest) =
          ofRelations adapter.catalog adapter.config mapper load rest ∨
      ∃ step name, step.relation = relation ∧ adapter.Makes mapper step ∧
        load.matched? relation.target relation.localField = some name ∧
        ofRelations adapter.catalog adapter.config mapper load (relation :: rest) =
          .load step
            (fun _ => adapter.plan step.target (load.descend adapter.config.prunePolicy name))
            (ofRelations adapter.catalog adapter.config mapper load rest)) := by
  rw [ofRelations_cons] at known ⊢
  cases selected : load.matched? relation.target relation.localField with
  | none =>
      simp only [selected] at known
      exact ⟨known, fun isSelected => absurd rfl isSelected, Or.inl ⟨Or.inl rfl, rfl⟩⟩
  | some name =>
      cases registered : adapter.catalog.get? relation.target with
      | none =>
          simp only [selected, registered] at known
          exact absurd rfl (known relation.target)
      | some target =>
          cases keyed : relation.join? with
          | none =>
              simp only [selected, registered, keyed] at known
              exact ⟨known, fun _ => ⟨target, rfl⟩, Or.inl ⟨Or.inr rfl, rfl⟩⟩
          | some join =>
              simp only [selected, registered, keyed] at known
              have restKnown := ne_unknown_of_cons known
              exact ⟨restKnown, fun _ => ⟨target, rfl⟩, Or.inr ⟨_, name, rfl,
                ⟨registered, keyed, rfl, rfl⟩, rfl, cons_of_ne_unknown restKnown⟩⟩

/-- A plan without unregistered targets contains the steps of the selected relations. -/
theorem contains_ofRelations_iff {relations : List Relation}
    (known : ∀ target,
      ofRelations adapter.catalog adapter.config mapper load relations ≠ .unknown target)
    (step : Step) (nested : Plan) :
    (ofRelations adapter.catalog adapter.config mapper load relations).Contains step nested ↔
      step.relation ∈ relations ∧ adapter.Makes mapper step ∧
        ∃ name, load.matched? step.relation.target step.relation.localField = some name ∧
          nested = adapter.plan step.target (load.descend adapter.config.prunePolicy name) := by
  -- Only the rest of the level is taken apart: what is below a step is a plan of its own.
  induction relations with
  | nil =>
      rw [ofRelations]
      constructor
      · intro impossible
        cases impossible
      · rintro ⟨impossible, _⟩
        cases impossible
  | cons relation rest inductionHypothesis =>
      rcases ofRelations_cons_of_known known with
        ⟨restKnown, _, ⟨unused, leftOut⟩ | ⟨first, name, isFirst, makes, selected, comesFirst⟩⟩
      · rw [leftOut, inductionHypothesis restKnown, List.mem_cons, or_and_right, iff_or_self]
        rintro ⟨rfl, makes, name, matched, _⟩
        rcases unused with unselected | keyless
        · rw [unselected] at matched
          cases matched
        · rw [makes.keyed] at keyless
          cases keyless
      · rw [comesFirst, contains_load_iff, inductionHypothesis restKnown, List.mem_cons,
          or_and_right]
        apply or_congr_left
        constructor
        · rintro ⟨rfl, rfl⟩
          exact ⟨isFirst, makes, name, isFirst ▸ selected, rfl⟩
        · rintro ⟨sameRelation, makesStep, other, matched, rfl⟩
          have sameStep : step = first :=
            makesStep.eq_of_relation makes (sameRelation.trans isFirst.symm)
          rw [sameRelation, selected] at matched
          rw [sameStep, Option.some.inj matched]
          exact ⟨rfl, rfl⟩

theorem Contains.exists_loaded {plan nested : Plan} {step : Step}
    (contained : plan.Contains step nested) {store : Store} {batch : Batch}
    {owners : List Document} {loaded : List Loaded}
    (gathers : (plan.gathered store batch owners).outcome = .ok loaded) :
    ∃ related, ⟨step.task batch owners, related⟩ ∈ loaded := by
  induction contained generalizing loaded with
  | here step below rest =>
      rcases (outcome_gathered_load_eq_ok_iff store batch owners step below rest loaded).mp
        gathers with ⟨related, later, _, _, rfl⟩
      exact ⟨related, List.mem_cons_self⟩
  | later _ inductionHypothesis =>
      rcases (outcome_gathered_load_eq_ok_iff store batch owners _ _ _ loaded).mp gathers with
        ⟨_, later, _, gathersLater, rfl⟩
      rcases inductionHypothesis gathersLater with ⟨related, member⟩
      exact ⟨related, List.mem_cons_of_mem _ member⟩

end Plan

/-! ## Loading along a chain -/

/-- Every relation of a chain has owners: the first one those of a level, and every other
one the records that are found for the relation before it. -/
inductive Served (store : Store) : Batch → List Document → List Step → Prop
  | last {batch : Batch} {owners : List Document} (step : Step) :
      owners ≠ [] → Served store batch owners [step]
  | through {batch nested : Batch} {owners : List Document} {step : Step} {rest : List Step}
      {call : Call (List Document)} :
      owners ≠ [] → (step.task batch owners).start = .call call nested →
      Served store nested (call.answer (store.records call.request.collection)) rest →
      Served store batch owners (step :: rest)

/-- Every relation of a chain is declared by the target of the relation before it, the first
one by a mapper. -/
def Adapter.OffersAlong (adapter : Adapter) : Mapper → List Step → Prop
  | _, [] => True
  | mapper, step :: rest => adapter.Offers mapper step ∧ adapter.OffersAlong step.target rest

namespace Level

/-- Loading on a level loads every relation of a chain, the first one onto the owners of the
level and every other one onto the records found for the relation before it. -/
inductive LoadsAlong (store : Store) : Level → List Step → Prop
  | last {level : Level} {step : Step} {related : List Document} :
      level.owners ≠ [] → level.Loads store step related → LoadsAlong store level [step]
  | through {level : Level} {step : Step} {related : List Document} {plan : Plan}
      {nested : Batch} {call : Call (List Document)} {rest : List Step} :
      level.owners ≠ [] → level.Loads store step related → level.plan.Contains step plan →
      (step.task level.batch level.owners).start = .call call nested →
      LoadsAlong store ⟨plan, nested, call.answer (store.records call.request.collection)⟩
        rest →
      LoadsAlong store level (step :: rest)

variable {level : Level} {store : Store} {step : Step} {rest : List Step}

theorem Loads.ne_unknown {related : List Document} (loads : level.Loads store step related) :
    ∀ target, level.plan ≠ .unknown target := by
  intro target isUnknown
  rcases loads with ⟨loaded, gathers, _⟩
  rw [isUnknown] at gathers
  cases gathers

theorem Loads.contains {related : List Document} (loads : level.Loads store step related) :
    ∃ nested, level.plan.Contains step nested := by
  rcases loads with ⟨loaded, gathers, member⟩
  rcases Plan.contains_of_mem_gathered gathers member with ⟨other, nested, contained, same, _⟩
  have sameStep : step = other := (Task.mk.inj same).1
  exact ⟨nested, sameStep ▸ contained⟩

theorem exists_loads_iff (nonempty : level.owners ≠ []) (resolves : level.Resolves store)
    (step : Step) :
    (∃ related, level.Loads store step related) ↔ ∃ nested, level.plan.Contains step nested := by
  constructor
  · rintro ⟨related, loads⟩
    exact loads.contains
  · rintro ⟨nested, contained⟩
    rcases resolves with ⟨resolved, resolves⟩
    rcases (Plan.outcome_resolved_eq_ok_iff _ store _ nonempty resolved).mp resolves with
      ⟨loaded, gathers, _⟩
    rcases contained.exists_loaded gathers with ⟨related, member⟩
    exact ⟨related, loaded, gathers, member⟩

theorem Resolves.ne_unknown (nonempty : level.owners ≠ []) (resolves : level.Resolves store) :
    ∀ target, level.plan ≠ .unknown target := by
  intro target isUnknown
  rcases resolves with ⟨resolved, resolves⟩
  rw [Plan.outcome_resolved_of_ne_nil _ store _ nonempty, isUnknown] at resolves
  cases resolves

theorem loadsAlong_singleton_iff (nonempty : level.owners ≠ []) (resolves : level.Resolves store)
    (step : Step) :
    level.LoadsAlong store [step] ↔ ∃ nested, level.plan.Contains step nested := by
  rw [← exists_loads_iff nonempty resolves step]
  constructor
  · intro along
    cases along with
    | last _ loads => exact ⟨_, loads⟩
    | through _ loads _ _ _ => exact ⟨_, loads⟩
  · rintro ⟨related, loads⟩
    exact .last nonempty loads

/-- A chain is loaded if its first relation is, and the rest on the level below it. -/
theorem loadsAlong_cons_iff (nonempty : level.owners ≠ []) (resolves : level.Resolves store)
    {call : Call (List Document)} {nested : Batch}
    (started : (step.task level.batch level.owners).start = .call call nested)
    (further : rest ≠ []) :
    level.LoadsAlong store (step :: rest) ↔
      ∃ plan, level.plan.Contains step plan ∧
        LoadsAlong store ⟨plan, nested, call.answer (store.records call.request.collection)⟩
          rest := by
  constructor
  · intro along
    cases along with
    | last => exact absurd rfl further
    | through _ _ contained otherStarted alongRest =>
        rw [started] at otherStarted
        cases otherStarted
        exact ⟨_, contained, alongRest⟩
  · rintro ⟨plan, contained, alongRest⟩
    rcases (exists_loads_iff nonempty resolves step).mpr ⟨plan, contained⟩ with ⟨related, loads⟩
    exact .through nonempty loads contained started alongRest

theorem LoadsAlong.served {chain : List Step} (along : level.LoadsAlong store chain) :
    Served store level.batch level.owners chain := by
  induction along with
  | last nonempty _ => exact .last _ nonempty
  | through nonempty _ _ started _ inductionHypothesis =>
      exact .through nonempty started inductionHypothesis

/-- What a level loads is a selected relation of the mapper that its plan is for. -/
theorem Loads.offers {adapter : Adapter} {mapper : Mapper} {load : EagerLoad}
    {related : List Document} (loads : level.Loads store step related)
    (planned : level.plan = adapter.plan mapper load) :
    adapter.Offers mapper step ∧
      ∃ name, load.matched? step.relation.target step.relation.localField = some name := by
  have known := loads.ne_unknown
  obtain ⟨nested, contained⟩ := loads.contains
  rw [planned] at known contained
  obtain ⟨declared, makes, name, selected, _⟩ :=
    (Plan.contains_ofRelations_iff known step nested).mp contained
  exact ⟨⟨makes, declared⟩, name, selected⟩

/-- Chains that are loaded are declared, one relation by the target of the other. -/
theorem LoadsAlong.offered {chain : List Step} (along : level.LoadsAlong store chain)
    {adapter : Adapter} {mapper : Mapper} {load : EagerLoad}
    (planned : level.plan = adapter.plan mapper load) : adapter.OffersAlong mapper chain := by
  induction along generalizing mapper load with
  | last _ loads => exact ⟨(loads.offers planned).1, trivial⟩
  | through _ loads contained _ _ inductionHypothesis =>
      have known := loads.ne_unknown
      rw [planned] at known contained
      rcases (Plan.contains_ofRelations_iff known _ _).mp contained with
        ⟨_, _, name, _, below⟩
      exact ⟨(loads.offers planned).1, inductionHypothesis below⟩

end Level

theorem Served.ne_nil {store : Store} {batch : Batch} {owners : List Document}
    {chain : List Step} (served : Served store batch owners chain) : chain ≠ [] := by
  cases served <;> simp

/-- Below some names, the plan for what is left of a list contains a relation exactly if the
list asks for it after these names. -/
theorem Adapter.Offers.contains_leftBelow_iff {adapter : Adapter} {mapper : Mapper} {step : Step}
    (offered : adapter.Offers mapper step) (load : EagerLoad) {passed : List String}
    (named : ∀ name ∈ passed, name ≠ "")
    (known : ∀ target,
      adapter.plan mapper (load.leftBelow adapter.config.prunePolicy passed) ≠ .unknown target)
    (nested : Plan) :
    (adapter.plan mapper (load.leftBelow adapter.config.prunePolicy passed)).Contains step
        nested ↔
      load.Spells (passed ++ [load.askedName passed step.relation]) ∧
        nested = adapter.plan step.target (load.leftBelow adapter.config.prunePolicy
          (passed ++ [load.askedName passed step.relation])) := by
  rw [Adapter.plan, Plan.ofMapper, Plan.contains_ofRelations_iff known]
  simp only [offered.declared, offered.toMakes, true_and,
    load.matched?_leftBelow_eq_some_iff adapter.config.prunePolicy named,
    EagerLoad.leftBelow_append]
  constructor
  · rintro ⟨name, ⟨rfl, spelled⟩, rfl⟩
    exact ⟨spelled, rfl⟩
  · rintro ⟨spelled, rfl⟩
    exact ⟨_, ⟨rfl, spelled⟩, rfl⟩

/-- Below some names, a chain is loaded exactly if the list asks for all of it after these
names. -/
theorem loadsAlong_leftBelow_iff {adapter : Adapter} {store : Store} {load : EagerLoad}
    {batch : Batch} {owners : List Document} {chain : List Step}
    (served : Served store batch owners chain) {mapper : Mapper}
    (offered : adapter.OffersAlong mapper chain) {passed : List String}
    (named : ∀ name ∈ passed, name ≠ "")
    (resolves : Level.Resolves
      ⟨adapter.plan mapper (load.leftBelow adapter.config.prunePolicy passed), batch, owners⟩
      store) :
    Level.LoadsAlong store
        ⟨adapter.plan mapper (load.leftBelow adapter.config.prunePolicy passed), batch, owners⟩
        chain ↔
      load.AsksAlong passed (chain.map Step.relation) := by
  -- The induction follows the owners that are reached, and the passed names grow along with it.
  induction served generalizing mapper passed with
  | last step nonempty =>
      have known := resolves.ne_unknown nonempty
      rw [Level.loadsAlong_singleton_iff nonempty resolves]
      simp only [offered.1.contains_leftBelow_iff load named known, exists_and_left, exists_eq,
        List.map_cons, List.map_nil, EagerLoad.AsksAlong]
  | @through batch nested owners step rest call nonempty started servedRest inductionHypothesis =>
      have known := resolves.ne_unknown nonempty
      rw [Level.loadsAlong_cons_iff nonempty resolves started servedRest.ne_nil]
      simp only [offered.1.contains_leftBelow_iff load named known, and_assoc, exists_and_left,
        exists_eq_left, List.map_cons, EagerLoad.AsksAlong]
      apply and_congr_right
      intro spelled
      have contained := (offered.1.contains_leftBelow_iff load named known _).mpr ⟨spelled, rfl⟩
      have enters : Level.Enters store
          ⟨adapter.plan mapper (load.leftBelow adapter.config.prunePolicy passed), batch, owners⟩
          _ :=
        .deeper .start nonempty contained started
      exact inductionHypothesis offered.2 spelled.1 (enters.resolves resolves)

/-- Dotted paths select what they spell.  Below a chain of names, under any prune policies, a
list contains a name exactly if the path along all of them is listed; so a call that succeeds
loads exactly those chains of declared relations, each with owners, that the list asks for as a
whole, every relation by its target or else by its field. -/
theorem EagerLoad.loadsAlong_iff_asksAlong (load : EagerLoad) :
    (∀ (passed : List (PrunePolicy × String)) (last : String),
        (load.descendAll passed).contains last = true ↔
          last ≠ "" ∧ path (passed.map Prod.snd ++ [last]) ∈ load.entries) ∧
      ∀ (adapter : Adapter) (pace : Pace) (session : Session) (batch : Batch) (mapper : Mapper)
        (owners resolved : List Document) (chain : List Step),
        ((adapter.resolve pace batch mapper owners load).outcome session).1 = .ok resolved →
        (Level.LoadsAlong session.store ⟨adapter.plan mapper load, batch, owners⟩ chain ↔
          adapter.OffersAlong mapper chain ∧ Served session.store batch owners chain ∧
            load.AsksAlong [] (chain.map Step.relation)) := by
  refine ⟨load.contains_descendAll_iff, ?_⟩
  intro adapter pace session batch mapper owners resolved chain succeeds
  rw [adapter.outcome_resolve_eq_ok_iff] at succeeds
  have exactly : adapter.OffersAlong mapper chain → Served session.store batch owners chain →
      (Level.LoadsAlong session.store ⟨adapter.plan mapper load, batch, owners⟩ chain ↔
        load.AsksAlong [] (chain.map Step.relation)) := by
    intro offered served
    exact loadsAlong_leftBelow_iff served offered (List.forall_mem_nil _) ⟨resolved, succeeds⟩
  constructor
  · intro along
    have offered := along.offered rfl
    exact ⟨offered, along.served, (exactly offered along.served).mp along⟩
  · rintro ⟨offered, served, asked⟩
    exact (exactly offered served).mpr asked

/-- The articles of a writer, in the magazine. -/
def magazineArticles : Step :=
  ⟨.hasMany "a" "as" "by", .children "by", magazineArticle, "id", "id"⟩

/-- The notes on an article, in the magazine. -/
def magazineNotes : Step :=
  ⟨.hasMany "n" "ns" "on", .children "on", (Mapper.named "n").withTable "n", "id", "id"⟩

set_option maxRecDepth 100000 in
theorem loadsAlong_iff_asksAlong_magazine :
    (EagerLoad.descendAll ⟨["as", "", "as.ns"]⟩ [(.dropUnmatched, "as")]).contains "ns" = true ∧
      Level.LoadsAlong magazineStore
        ⟨magazine.plan magazineWriter ⟨["as", "", "as.ns"]⟩, .many, magazineStore.records "w"⟩
        [magazineArticles, magazineNotes] := by
  have succeeds : ∃ resolved, ((magazine.resolve .direct .many magazineWriter
      (magazineStore.records "w") ⟨["as", "", "as.ns"]⟩).outcome ⟨magazineStore, []⟩).1 =
        .ok resolved := ⟨_, by cbv⟩
  have offered : magazine.OffersAlong magazineWriter [magazineArticles, magazineNotes] :=
    ⟨⟨⟨rfl, rfl, rfl, rfl⟩, by decide⟩, ⟨⟨rfl, rfl, rfl, rfl⟩, by decide⟩, trivial⟩
  have started : (magazineArticles.task .many (magazineStore.records "w")).start =
      .call (.fetch "a" (Task.criterion "by" "in" (.array [.string "w"])) none) .many := by
    cbv
  have found : (Call.fetch "a" (Task.criterion "by" "in" (.array [.string "w"])) none).answer
      (magazineStore.records "a") = [[("id", .string "a"), ("by", .string "w")]] := by
    cbv
  have served : Served magazineStore .many (magazineStore.records "w")
      [magazineArticles, magazineNotes] := by
    apply Served.through (by decide) started
    apply Served.last
    exact found ▸ List.cons_ne_nil _ _
  have asked : EagerLoad.AsksAlong ⟨["as", "", "as.ns"]⟩ []
      ([magazineArticles, magazineNotes].map Step.relation) := by
    decide
  rcases succeeds with ⟨resolved, succeeds⟩
  rcases EagerLoad.loadsAlong_iff_asksAlong ⟨["as", "", "as.ns"]⟩ with ⟨below, along⟩
  exact ⟨(below [(.dropUnmatched, "as")] "ns").mpr (by decide),
    (along magazine .direct ⟨magazineStore, []⟩ .many magazineWriter _ resolved _ succeeds).mpr
      ⟨offered, served, asked⟩⟩

end RecordGraph
