import RecordGraph.Proofs.DottedPaths

/-!
# Adding an entry to an eager-load list

A relation is selected by the name of its target before that of its field, and what is loaded
below it is what the list asks for after the name that selects it.  An added entry can thus
rename a relation: it names the target of one that was selected by its field, and the paths that
go on from the field ask for nothing any more.  This is the only way to lose a chain.
-/

namespace RecordGraph

namespace EagerLoad

/-! ## Paths that go on from an entry -/

theorem path_append_ne {names further : List String} (nonempty : names ≠ [])
    (goesOn : further ≠ []) : path (names ++ further) ≠ path names := by
  have goesOnFrom : path (names ++ further) = path names ++ "." ++ path further :=
    String.intercalate_append_of_ne_nil nonempty goesOn
  rw [goesOnFrom]
  exact ne_path (path names) (path further)

/-! ## What an added entry spells -/

theorem spells_add_iff (load : EagerLoad) (entry : String) (names : List String) :
    (load.add entry).Spells names ↔
      load.Spells names ∨ (∀ name ∈ names, name ≠ "") ∧ path names = entry := by
  simp only [Spells, add, List.mem_append, List.mem_singleton]
  exact and_or_left

/-- An added entry asks for nothing that stands below the path that it is. -/
theorem asksAlong_add_below_iff (load : EagerLoad) {names : List String}
    (nonempty : names ≠ []) (further : List String) (chain : List Relation) :
    (load.add (path names)).AsksAlong (names ++ further) chain ↔
      load.AsksAlong (names ++ further) chain := by
  have sameSpelled : ∀ more : List String, more ≠ [] →
      ((load.add (path names)).Spells (names ++ more) ↔ load.Spells (names ++ more)) := by
    intro more goesOn
    rw [spells_add_iff, or_iff_left]
    rintro ⟨_, samePath⟩
    exact path_append_ne nonempty goesOn samePath
  induction chain generalizing further with
  | nil => exact Iff.rfl
  | cons relation rest inductionHypothesis =>
      have sameName : (load.add (path names)).askedName (names ++ further) relation =
          load.askedName (names ++ further) relation := by
        unfold askedName
        rw [List.append_assoc]
        simp only [sameSpelled (further ++ [relation.target]) (by simp)]
      rw [AsksAlong, AsksAlong, sameName, List.append_assoc, sameSpelled _ (by simp)]
      exact and_congr_right fun _ => inductionHypothesis _

/-! ## Diverted chains -/

/-- Below some names, an added entry names the target of a relation that was not listed by it. -/
def Renames (load : EagerLoad) (entry : String) (passed : List String) (relation : Relation) :
    Prop :=
  (load.add entry).Spells (passed ++ [relation.target]) ∧
    ¬ load.Spells (passed ++ [relation.target])

instance (load : EagerLoad) (entry : String) (passed : List String) (relation : Relation) :
    Decidable (load.Renames entry passed relation) :=
  inferInstanceAs (Decidable (_ ∧ _))

/-- An added entry diverts a chain if the first relation that it renames is followed by others
that the list does not ask for below the new name. -/
def Diverts (load : EagerLoad) (entry : String) : List String → List Relation → Prop
  | _, [] => False
  | passed, relation :: rest =>
      if load.Renames entry passed relation then
        ¬ load.AsksAlong (passed ++ [relation.target]) rest
      else
        load.Diverts entry (passed ++ [load.askedName passed relation]) rest

instance decidableDiverts (load : EagerLoad) (entry : String) :
    ∀ (passed : List String) (chain : List Relation), Decidable (load.Diverts entry passed chain)
  | _, [] => .isFalse id
  | passed, relation :: rest =>
      have := decidableDiverts load entry (passed ++ [load.askedName passed relation]) rest
      inferInstanceAs (Decidable (if load.Renames entry passed relation then
        ¬ load.AsksAlong (passed ++ [relation.target]) rest
      else load.Diverts entry (passed ++ [load.askedName passed relation]) rest))

theorem askedName_add_of_renames {load : EagerLoad} {entry : String} {passed : List String}
    {relation : Relation} (renames : load.Renames entry passed relation) :
    (load.add entry).askedName passed relation = relation.target := by
  rw [askedName, if_pos renames.1]

theorem askedName_add_of_not_renames {load : EagerLoad} {entry : String} {passed : List String}
    {relation : Relation} (kept : ¬ load.Renames entry passed relation) :
    (load.add entry).askedName passed relation = load.askedName passed relation := by
  unfold askedName
  by_cases byTarget : load.Spells (passed ++ [relation.target])
  · rw [if_pos byTarget, if_pos ((spells_add_iff load entry _).mpr (Or.inl byTarget))]
  · rw [if_neg byTarget, if_neg fun added => kept ⟨added, byTarget⟩]

/-- A chain that a list asks for is asked for with an added entry unless that diverts it. -/
theorem asksAlong_add_iff {load : EagerLoad} (entry : String) {passed : List String}
    {chain : List Relation} (asked : load.AsksAlong passed chain) :
    (load.add entry).AsksAlong passed chain ↔ ¬ load.Diverts entry passed chain := by
  induction chain generalizing passed with
  | nil => simp [AsksAlong, Diverts]
  | cons relation rest inductionHypothesis =>
      rw [AsksAlong, Diverts]
      by_cases renames : load.Renames entry passed relation
      · have isPath : path (passed ++ [relation.target]) = entry := by
          rcases (spells_add_iff load entry _).mp renames.1 with listed | ⟨_, isPath⟩
          · exact absurd listed renames.2
          · exact isPath
        have nonempty : passed ++ [relation.target] ≠ [] := by simp
        have sameBelow := load.asksAlong_add_below_iff nonempty [] rest
        rw [List.append_nil, isPath] at sameBelow
        rw [if_pos renames, askedName_add_of_renames renames, sameBelow, not_not]
        exact and_iff_right renames.1
      · have spelled := (spells_add_iff load entry _).mpr (Or.inl asked.1)
        rw [if_neg renames, askedName_add_of_not_renames renames, ← inductionHypothesis asked.2]
        exact and_iff_right spelled

end EagerLoad

/-! ## Chains that are still loaded -/

/-- Of the chains that a call loads, a call with one more entry loads those that the entry does
not divert. -/
theorem Adapter.loadsAlong_add_iff {adapter : Adapter} {mapper : Mapper} {load : EagerLoad}
    {entry : String} {pace widerPace : Pace} {batch : Batch} {session : Session}
    {owners resolved widerResolved : List Document}
    (resolves : ((adapter.resolve pace batch mapper owners load).outcome session).1 =
      .ok resolved)
    (widerResolves : ((adapter.resolve widerPace batch mapper owners (load.add entry)).outcome
      session).1 = .ok widerResolved)
    {chain : List Step}
    (along : Level.LoadsAlong session.store ⟨adapter.plan mapper load, batch, owners⟩ chain) :
    Level.LoadsAlong session.store ⟨adapter.plan mapper (load.add entry), batch, owners⟩ chain ↔
      ¬ load.Diverts entry [] (chain.map Step.relation) := by
  rw [outcome_resolve_eq_ok_iff] at resolves widerResolves
  have offered := along.offered rfl
  have asksAlong : ∀ {asked : EagerLoad},
      Level.Resolves ⟨adapter.plan mapper asked, batch, owners⟩ session.store →
      (Level.LoadsAlong session.store ⟨adapter.plan mapper asked, batch, owners⟩ chain ↔
        asked.AsksAlong [] (chain.map Step.relation)) :=
    fun succeeds => loadsAlong_leftBelow_iff along.served offered (List.forall_mem_nil _) succeeds
  have asked := (asksAlong ⟨resolved, resolves⟩).mp along
  rw [asksAlong ⟨widerResolved, widerResolves⟩]
  exact EagerLoad.asksAlong_add_iff entry asked

/-! ## Notes on the articles of a writer -/

set_option maxRecDepth 100000 in
theorem magazineNotes_served :
    Served magazineStore .many (magazineStore.records "w") [magazineArticles, magazineNotes] := by
  have started : (magazineArticles.task .many (magazineStore.records "w")).start =
      .call (.fetch "a" (Task.criterion "by" "in" (.array [.string "w"])) none) .many := by
    cbv
  have found : (Call.fetch "a" (Task.criterion "by" "in" (.array [.string "w"])) none).answer
      (magazineStore.records "a") = [[("id", .string "a"), ("by", .string "w")]] := by
    cbv
  apply Served.through (by decide) started
  apply Served.last
  exact found ▸ List.cons_ne_nil _ _

theorem magazineNotes_offered :
    magazine.OffersAlong magazineWriter [magazineArticles, magazineNotes] :=
  ⟨⟨⟨rfl, rfl, rfl, rfl⟩, by decide⟩, ⟨⟨rfl, rfl, rfl, rfl⟩, by decide⟩, trivial⟩

/-- A list with which the writers of the magazine are resolved. -/
def Magazine.Resolves (load : EagerLoad) : Prop :=
  ∃ resolved, ((magazine.resolve .direct .many magazineWriter (magazineStore.records "w")
    load).outcome ⟨magazineStore, []⟩).1 = .ok resolved

/-- A list with which the notes on the articles of the writers are loaded. -/
def Magazine.LoadsNotes (load : EagerLoad) : Prop :=
  Level.LoadsAlong magazineStore
    ⟨magazine.plan magazineWriter load, .many, magazineStore.records "w"⟩
    [magazineArticles, magazineNotes]

theorem Magazine.loadsNotes_iff {load : EagerLoad} (resolves : Resolves load) :
    LoadsNotes load ↔ load.AsksAlong [] ([magazineArticles, magazineNotes].map Step.relation) := by
  obtain ⟨resolved, resolves⟩ := resolves
  rw [Adapter.outcome_resolve_eq_ok_iff] at resolves
  exact loadsAlong_leftBelow_iff magazineNotes_served magazineNotes_offered
    (List.forall_mem_nil _) ⟨resolved, resolves⟩

set_option maxRecDepth 100000 in
theorem Magazine.resolves_byField :
    Resolves ⟨["as", "as.ns"]⟩ ∧ Resolves (.add ⟨["as", "as.ns"]⟩ "a") :=
  ⟨⟨_, by cbv⟩, ⟨_, by cbv⟩⟩

set_option maxRecDepth 100000 in
theorem Magazine.resolves_byEither :
    Resolves ⟨["as", "as.ns", "a.ns"]⟩ ∧ Resolves (.add ⟨["as", "as.ns", "a.ns"]⟩ "a") :=
  ⟨⟨_, by cbv⟩, ⟨_, by cbv⟩⟩

/-- Articles are loaded by their field with the notes on them; with their own name added, they
are loaded by that and without notes. -/
theorem Magazine.not_loadsNotes_add :
    Resolves ⟨["as", "as.ns"]⟩ ∧ Resolves (.add ⟨["as", "as.ns"]⟩ "a") ∧
      LoadsNotes ⟨["as", "as.ns"]⟩ ∧ ¬ LoadsNotes (.add ⟨["as", "as.ns"]⟩ "a") := by
  obtain ⟨resolves, widerResolves⟩ := resolves_byField
  have loaded : LoadsNotes ⟨["as", "as.ns"]⟩ := (loadsNotes_iff resolves).mpr (by decide)
  have lost : ¬ LoadsNotes (.add ⟨["as", "as.ns"]⟩ "a") := by
    rw [loadsNotes_iff widerResolves]
    decide
  exact ⟨resolves, widerResolves, loaded, lost⟩

/-- With the name of the articles added, their notes are lost, unless they are asked for below
this name too. -/
theorem loadsAlong_add_iff_magazine :
    EagerLoad.Diverts ⟨["as", "as.ns"]⟩ "a" []
        ([magazineArticles, magazineNotes].map Step.relation) ∧
      ¬ Magazine.LoadsNotes (.add ⟨["as", "as.ns"]⟩ "a") ∧
      ¬ EagerLoad.Diverts ⟨["as", "as.ns", "a.ns"]⟩ "a" []
        ([magazineArticles, magazineNotes].map Step.relation) ∧
      Magazine.LoadsNotes (.add ⟨["as", "as.ns", "a.ns"]⟩ "a") := by
  have loaded := (Magazine.loadsNotes_iff Magazine.resolves_byField.1).mpr (by decide)
  have eitherLoaded := (Magazine.loadsNotes_iff Magazine.resolves_byEither.1).mpr (by decide)
  obtain ⟨⟨_, resolves⟩, ⟨_, widerResolves⟩⟩ := Magazine.resolves_byField
  obtain ⟨⟨_, eitherResolves⟩, ⟨_, eitherWiderResolves⟩⟩ := Magazine.resolves_byEither
  have lost := Adapter.loadsAlong_add_iff resolves widerResolves loaded
  have kept := Adapter.loadsAlong_add_iff eitherResolves eitherWiderResolves eitherLoaded
  have diverts : EagerLoad.Diverts ⟨["as", "as.ns"]⟩ "a" []
      ([magazineArticles, magazineNotes].map Step.relation) := by
    decide
  have spares : ¬ EagerLoad.Diverts ⟨["as", "as.ns", "a.ns"]⟩ "a" []
      ([magazineArticles, magazineNotes].map Step.relation) := by
    decide
  exact ⟨diverts, fun along => lost.mp along diverts, spares, kept.mpr spares⟩

end RecordGraph
