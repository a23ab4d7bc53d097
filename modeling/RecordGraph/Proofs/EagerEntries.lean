import Mathlib.Tactic.Tauto
import RecordGraph.Adapter

/-!
# What an eager-load list asks for

Of an eager-load list only the set of its non-empty entries counts, and all of it does.
The entries of the level below a relation are the ends of the paths that begin with its
name, and the entries that a prune policy treats one way or the other are all empty or gone.
-/

namespace RecordGraph

namespace EagerLoad

/-- Two lists have the same non-empty entries. -/
def Alike (load other : EagerLoad) : Prop :=
  ∀ entry, entry ≠ "" → (entry ∈ load.entries ↔ entry ∈ other.entries)

/-! ## Entries of the level below -/

theorem afterName?_eq_some_iff (name entry rest : List Char) :
    afterName? name entry = some rest ↔ entry = name ++ '.' :: rest := by
  fun_induction afterName? name entry with
  | case1 => simp [eq_comm]
  | case2 name first entry inductionHypothesis => simp [inductionHypothesis]
  | case3 expected name first entry different =>
      simp only [reduceCtorEq, List.cons_append, List.cons.injEq, false_iff, not_and]
      intro same
      exact absurd same.symm different
  | case4 name entry noDot noChar =>
      simp only [reduceCtorEq, false_iff]
      intro split
      cases name with
      | nil => exact noDot rest rfl split
      | cons expected name => exact noChar expected name expected _ rfl split

theorem below?_eq_some_iff (policy : PrunePolicy) (name entry : String) {rest : String}
    (nonempty : rest ≠ "") :
    below? policy name entry = some rest ↔ entry = name ++ "." ++ rest := by
  have inChars : entry = name ++ "." ++ rest ↔
      afterName? name.toList entry.toList = some rest.toList := by
    rw [afterName?_eq_some_iff, ← String.toList_inj]
    simp
  rw [inChars]
  unfold below?
  cases found : afterName? name.toList entry.toList with
  | some after => simp only [Option.some.injEq, ← String.toList_inj, String.toList_ofList]
  | none => cases policy <;> simp [nonempty.symm]

/-- The entry that selects a relation is no path through it. -/
theorem ne_path (name rest : String) : name ++ "." ++ rest ≠ name := by
  intro same
  have lengths := congrArg String.length same
  simp only [String.length_append] at lengths
  have : ".".length = 1 := rfl
  omega

theorem append_dot_ne_empty (name rest : String) : name ++ "." ++ rest ≠ "" := by
  intro empty
  have lengths := congrArg String.length empty
  simp [String.length_append] at lengths

theorem mem_descend_iff (load : EagerLoad) (policy : PrunePolicy) (name : String)
    {rest : String} (nonempty : rest ≠ "") :
    rest ∈ (load.descend policy name).entries ↔ name ++ "." ++ rest ∈ load.entries := by
  simp only [descend, List.mem_filterMap, below?_eq_some_iff policy name _ nonempty,
    exists_eq_right]
  exact List.mem_erase_of_ne (ne_path name rest)

/-! ## Alike lists -/

theorem contains_iff (load : EagerLoad) (name : String) :
    load.contains name = true ↔ name ≠ "" ∧ name ∈ load.entries := by
  simp [contains]

/-- Lists are alike if and only if the same names are found in them. -/
theorem alike_iff_contains (load other : EagerLoad) :
    load.Alike other ↔ ∀ name, load.contains name = other.contains name := by
  have sameName (name : String) : load.contains name = other.contains name ↔
      (name ≠ "" → (name ∈ load.entries ↔ name ∈ other.entries)) := by
    rw [Bool.eq_iff_iff, contains_iff, contains_iff, and_congr_right_iff]
  simp only [Alike, sameName]

theorem Alike.contains_eq {load other : EagerLoad} (alike : load.Alike other) (name : String) :
    load.contains name = other.contains name :=
  (load.alike_iff_contains other).mp alike name

theorem Alike.matched?_eq {load other : EagerLoad} (alike : load.Alike other)
    (target field : String) : load.matched? target field = other.matched? target field := by
  simp only [matched?, alike.contains_eq]

/-- Alike lists stay alike on the level below, whatever happens to other entries. -/
theorem Alike.descend {load other : EagerLoad} (alike : load.Alike other)
    (policy otherPolicy : PrunePolicy) (name : String) :
    (load.descend policy name).Alike (other.descend otherPolicy name) := by
  intro rest nonempty
  rw [mem_descend_iff load policy name nonempty, mem_descend_iff other otherPolicy name nonempty]
  exact alike _ (append_dot_ne_empty name rest)

/-- A list without non-empty entries selects nothing. -/
theorem matched?_of_isExhausted {load : EagerLoad} (exhausted : load.isExhausted = true)
    (target field : String) : load.matched? target field = none := by
  have contains : ∀ name, load.contains name = false := by
    intro name
    rw [Bool.eq_false_iff, ne_eq, contains_iff]
    rintro ⟨nonempty, member⟩
    exact nonempty (by simpa using List.all_eq_true.mp exhausted name member)
  simp [matched?, contains]

end EagerLoad

/-! ## Plans for alike lists -/

namespace Plan

theorem ofRelations_cons (catalog : Catalog) (config : Config) (mapper : Mapper)
    (load : EagerLoad) (relation : Relation) (rest : List Relation) :
    ofRelations catalog config mapper load (relation :: rest) =
      match load.matched? relation.target relation.localField with
      | none => ofRelations catalog config mapper load rest
      | some name =>
          match catalog.get? relation.target with
          | none => .unknown relation.target
          | some target =>
              match relation.join? with
              | none => ofRelations catalog config mapper load rest
              | some join =>
                  .cons
                    ⟨relation, join, target, mapper.identity config.defaultIdAttribute,
                      target.identity config.defaultIdAttribute⟩
                    (fun _ => ofRelations catalog config target
                      (load.descend config.prunePolicy name) target.relations)
                    (ofRelations catalog config mapper load rest) := by
  rw [ofRelations]
  split
  · rename_i unselected
    simp only [unselected]
  · rename_i name selected
    cases catalog.get? relation.target with
    | none => simp only [selected]
    | some target => cases relation.join? <;> simp only [selected]

/-- Alike lists make the same plan, whichever prune policies are used. -/
theorem ofRelations_congr {catalog : Catalog} {config other : Config}
    (sameField : config.defaultIdAttribute = other.defaultIdAttribute) (mapper : Mapper)
    {load otherLoad : EagerLoad} (alike : load.Alike otherLoad) (relations : List Relation) :
    ofRelations catalog config mapper load relations =
      ofRelations catalog other mapper otherLoad relations := by
  fun_induction ofRelations catalog config mapper load relations generalizing otherLoad with
  | case1 => rw [ofRelations]
  | case2 mapper load relation rest unselected restHypothesis =>
      rw [ofRelations_cons, ← alike.matched?_eq, unselected]
      exact restHypothesis alike
  | case3 mapper load relation rest name selected unregistered =>
      rw [ofRelations_cons, ← alike.matched?_eq, selected, unregistered]
  | case4 mapper load relation rest name selected target registered keyless restHypothesis =>
      rw [ofRelations_cons, ← alike.matched?_eq, selected, registered, keyless]
      exact restHypothesis alike
  | case5 mapper load relation rest name selected target registered join joined step below
      belowHypothesis =>
      rename_i restHypothesis
      -- The prune policies only differ in entries that do not count below.
      have sameBelow := belowHypothesis (alike.descend config.prunePolicy other.prunePolicy name)
      rw [ofRelations_cons, ← alike.matched?_eq, selected, registered, joined, restHypothesis alike,
        sameBelow]
      simp only [step, sameField]

end Plan

/-! ## Resolving with alike lists -/

namespace Adapter

def withPrunePolicy (adapter : Adapter) (policy : PrunePolicy) : Adapter :=
  { adapter with config := adapter.config.withPrunePolicy policy }

theorem resolve_withPrunePolicy_congr (adapter : Adapter) (policy otherPolicy : PrunePolicy)
    {load otherLoad : EagerLoad} (alike : load.Alike otherLoad) (pace : Pace) (batch : Batch)
    (mapper : Mapper) (owners : List Document) :
    (adapter.withPrunePolicy policy).resolve pace batch mapper owners load =
      (adapter.withPrunePolicy otherPolicy).resolve pace batch mapper owners otherLoad := by
  have samePlan :
      Plan.ofMapper adapter.catalog (adapter.config.withPrunePolicy policy) mapper load =
        Plan.ofMapper adapter.catalog (adapter.config.withPrunePolicy otherPolicy) mapper
          otherLoad :=
    Plan.ofRelations_congr (by rfl) mapper alike mapper.relations
  simp only [resolve, withPrunePolicy, samePlan]

theorem resolve_eq_of_alike (adapter : Adapter) (policy otherPolicy : PrunePolicy) (pace : Pace)
    (mapper : Mapper) {load otherLoad : EagerLoad} (alike : load.Alike otherLoad)
    (session : Session) :
    (∀ owners : List Document,
      ((adapter.withPrunePolicy policy).resolveMany pace mapper owners load).outcome session =
        ((adapter.withPrunePolicy otherPolicy).resolveMany pace mapper owners
          otherLoad).outcome session) ∧
      ∀ owner : Document,
        ((adapter.withPrunePolicy policy).resolveOne pace mapper owner load).outcome session =
          ((adapter.withPrunePolicy otherPolicy).resolveOne pace mapper owner
            otherLoad).outcome session := by
  have same := adapter.resolve_withPrunePolicy_congr policy otherPolicy alike pace
  constructor
  · intro owners
    rw [resolveMany, resolveMany, same]
  · intro owner
    rw [resolveOne, resolveOne, same]

end Adapter

/-! ## Lists that are told apart -/

/-- A mapper with one relation, which is selected by its target and its field alike. -/
def Mapper.asking (name : String) : Mapper :=
  (Mapper.named "").withRelation (.belongsTo name name "")

/-- Without any registered mapper, a relation cannot be loaded if and only if it is
selected. -/
theorem Adapter.outcome_resolveMany_asking (policy : PrunePolicy) (name : String)
    (load : EagerLoad) :
    (((Adapter.withPrunePolicy ⟨.empty, .default⟩ policy).resolveMany .direct (.asking name) [[]]
        load).outcome ⟨.empty, []⟩).1 =
      if load.contains name then .error (.unknownMapper name) else .ok [[]] := by
  have planned : ∀ config, Plan.ofMapper .empty config (.asking name) load =
      if load.contains name then .unknown name else .done := by
    intro config
    show Plan.ofRelations .empty config (.asking name) load [.belongsTo name name ""] = _
    rw [Plan.ofRelations_cons]
    by_cases selected : load.contains name
    · simp [EagerLoad.matched?, Relation.belongsTo, Relation.keyless, selected, Catalog.get?,
        Catalog.empty]
    · simp [EagerLoad.matched?, Relation.belongsTo, Relation.keyless, selected, Plan.ofRelations]
  simp only [resolveMany, resolve, withPrunePolicy, planned]
  by_cases selected : load.contains name
  · rw [if_pos selected, if_pos selected]
    rfl
  · rw [if_neg selected, if_neg selected]
    rfl

/-- Two lists have the same non-empty entries if and only if resolving never tells them apart:
it gives the same records or the same error, and leaves the same session with the same
requests in it, whatever is resolved and under any prune policies. -/
theorem EagerLoad.alike_iff_resolve_eq (load otherLoad : EagerLoad) :
    load.Alike otherLoad ↔
      ∀ (adapter : Adapter) (policy otherPolicy : PrunePolicy) (pace : Pace) (mapper : Mapper)
        (session : Session),
        (∀ owners : List Document,
          ((adapter.withPrunePolicy policy).resolveMany pace mapper owners load).outcome session =
            ((adapter.withPrunePolicy otherPolicy).resolveMany pace mapper owners
              otherLoad).outcome session) ∧
          ∀ owner : Document,
            ((adapter.withPrunePolicy policy).resolveOne pace mapper owner load).outcome session =
              ((adapter.withPrunePolicy otherPolicy).resolveOne pace mapper owner
                otherLoad).outcome session := by
  constructor
  · intro alike adapter policy otherPolicy pace mapper session
    exact adapter.resolve_eq_of_alike policy otherPolicy pace mapper alike session
  · intro same
    rw [alike_iff_contains]
    intro name
    have sameOutcome := (same ⟨.empty, .default⟩ .blankUnmatched .blankUnmatched .direct
      (.asking name) ⟨.empty, []⟩).1 [[]]
    have sameAnswer := congrArg Prod.fst sameOutcome
    rw [Adapter.outcome_resolveMany_asking, Adapter.outcome_resolveMany_asking] at sameAnswer
    cases asked : load.contains name <;> cases otherAsked : otherLoad.contains name <;>
      simp [asked, otherAsked] at sameAnswer ⊢

/-! ## A magazine -/

/-- The mapper of writers, who have articles and sit at a desk. -/
def magazineWriter : Mapper :=
  (((Mapper.named "w").withTable "w").withRelation (.hasMany "a" "as" "by")).withRelation
    (.belongsTo "d" "at" "of")

/-- The mapper of articles, which have notes. -/
def magazineArticle : Mapper :=
  ((Mapper.named "a").withTable "a").withRelation (.hasMany "n" "ns" "on")

def magazine : Adapter where
  catalog := ⟨[magazineArticle, (Mapper.named "d").withTable "d",
    (Mapper.named "n").withTable "n", magazineWriter]⟩
  config := .default

def magazineStore : Store where
  collections :=
    [("w", [[("id", .string "w"), ("of", .string "d")]]),
      ("a", [[("id", .string "a"), ("by", .string "w")]]),
      ("d", [[("id", .string "d")]]),
      ("n", [[("id", .string "n"), ("on", .string "a")]])]
  unavailable := []
  log := []

theorem alike_iff_resolve_eq_magazine :
    EagerLoad.Alike ⟨["as", "at", "as.ns"]⟩ ⟨["", "as.ns", "as", "", "as", "at"]⟩ ∧
      ((magazine.withPrunePolicy .blankUnmatched).resolveMany .direct magazineWriter
          (magazineStore.records "w") ⟨["as", "at", "as.ns"]⟩).outcome ⟨magazineStore, []⟩ =
        ((magazine.withPrunePolicy .dropUnmatched).resolveMany .direct magazineWriter
          (magazineStore.records "w") ⟨["", "as.ns", "as", "", "as", "at"]⟩).outcome
            ⟨magazineStore, []⟩ := by
  have alike : EagerLoad.Alike ⟨["as", "at", "as.ns"]⟩
      ⟨["", "as.ns", "as", "", "as", "at"]⟩ := by
    intro entry nonempty
    simp only [List.mem_cons, List.not_mem_nil, or_false, nonempty, false_or]
    tauto
  exact ⟨alike, ((EagerLoad.alike_iff_resolve_eq _ _).mp alike magazine .blankUnmatched
    .dropUnmatched .direct magazineWriter ⟨magazineStore, []⟩).1 _⟩

end RecordGraph
