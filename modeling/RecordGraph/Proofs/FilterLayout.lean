import RecordGraph.Proofs.FilterMeaning

/-!
# The layout of a filter

The conditions of a filter stand in the order of the criteria, one for each field that has a plain
operator, and the group of alternatives comes last, with a term for each of them.  Literals and
criteria at the top level are short for operators under `where`; what is no criterion, or is
replaced by one under `where`, has no part in the filter.
-/

namespace RecordGraph

/-! ## Conditions and terms -/

theorem Demand.condition?_ofTokens_eq_none_iff (tokens : Document) :
    (ofTokens tokens).condition? = none ↔ operations false tokens = [] := by
  have expressed := expresses_ofTokens tokens
  cases demanded : ofTokens tokens with
  | anything =>
      rw [demanded] at expressed
      exact iff_of_true rfl expressed
  | equals operand =>
      rw [demanded] at expressed
      obtain ⟨earlier, performed⟩ := expressed
      simp [condition?, performed]
  | operators document =>
      rw [demanded] at expressed
      obtain ⟨nonempty, _, _, listed⟩ := expressed
      obtain ⟨⟨key, operand⟩, member⟩ := List.exists_mem_of_ne_nil document nonempty
      obtain ⟨operator, _, counts⟩ := (listed key operand).mp member
      exact iff_of_false (by simp [condition?]) (List.ne_nil_of_mem (mem_of_effective counts))

theorem keys_plainConditions (criteria : List (String × Document)) :
    Document.keys (plainConditions criteria) =
      (criteria.filter fun criterion => operations false criterion.2 ≠ []).map Prod.fst := by
  rw [Document.keys]
  induction criteria with
  | nil => rfl
  | cons criterion rest inductionHypothesis =>
      have conditioned := Demand.condition?_ofTokens_eq_none_iff criterion.2
      by_cases nothing : operations false criterion.2 = []
      · rw [plainConditions, List.filterMap_cons_none (by rw [conditioned.mpr nothing]; rfl),
          List.filter_cons_of_neg (by simp [nothing])]
        exact inductionHypothesis
      · obtain ⟨condition, made⟩ := Option.ne_none_iff_exists'.mp (mt conditioned.mp nothing)
        rw [plainConditions, List.filterMap_cons_some (by rw [made]; rfl),
          List.filter_cons_of_pos (by simp [nothing]), List.map_cons, List.map_cons]
        exact congrArg (criterion.1 :: ·) inductionHypothesis

theorem alternativeTerms_ne_nil_iff (criteria : List (String × Document)) :
    alternativeTerms criteria ≠ [] ↔ ∃ criterion ∈ criteria, operations true criterion.2 ≠ [] := by
  simp [alternativeTerms_eq]

/-! ## The group of alternatives -/

theorem Document.get?_eq_none {document : Document} {key : String}
    (absent : key ∉ document.keys) : document.get? key = none := by
  rw [← Option.not_isSome_iff_eq_none]
  exact mt (document.hasKey_iff key).mp absent

section Group

variable {selection : Selection}

theorem alternativesKey_not_mem_keys
    (noGroup : ∀ criterion ∈ selection.criteria,
      operations false criterion.2 ≠ [] → criterion.1 ≠ alternativesKey) :
    alternativesKey ∉ Document.keys (plainConditions selection.criteria) := by
  rw [keys_plainConditions]
  intro member
  obtain ⟨criterion, kept, isGroup⟩ := List.mem_map.mp member
  obtain ⟨inCriteria, performed⟩ := List.mem_filter.mp kept
  exact noGroup criterion inCriteria (of_decide_eq_true performed) isGroup

end Group

/-! ## What a filter depends on -/

/-- Entries that a test keeps are not lost by a weaker test before it. -/
theorem Document.filter_filter_of_imp {keeps before : String × Value → Bool}
    (weaker : ∀ entry, keeps entry = true → before entry = true) (document : Document) :
    (document.filter before).filter keeps = document.filter keeps := by
  rw [List.filter_filter]
  congr 1
  funext entry
  exact Bool.and_eq_left_iff_imp.mpr (weaker entry)

theorem Document.get?_filter_key (keeps : String → Bool) {key : String} (kept : keeps key = true)
    (document : Document) :
    get? (document.filter fun entry => keeps entry.1) key = document.get? key := by
  induction document with
  | nil => rfl
  | cons entry rest inductionHypothesis =>
      obtain ⟨first, held⟩ := entry
      rw [List.filter_cons, get?_cons, ← inductionHypothesis]
      by_cases keepsFirst : keeps first = true
      · rw [if_pos keepsFirst, get?_cons]
      · have different : key ≠ first := fun same => keepsFirst (same ▸ kept)
        rw [if_neg keepsFirst, if_neg different]

theorem Document.get?_filter_ne (document : Document) (key : String) :
    get? (document.filter (·.1 ≠ key)) key = none := by
  apply get?_eq_none
  intro named
  obtain ⟨entry, kept, isKey⟩ := List.mem_map.mp named
  exact of_decide_eq_true (List.mem_filter.mp kept).2 isKey

namespace Selection

/-- The query that asks its criteria under `where` and as operators. -/
def explicit (selection : Selection) : Selection :=
  ⟨[("where", .object
    (selection.criteria.map fun criterion => (criterion.1, .object criterion.2)))]⟩

theorem criteria_explicit (selection : Selection) :
    selection.explicit.criteria = selection.criteria := by
  rw [criteria_of_where rfl (by simp [explicit, isReserved, reserved]), List.map_map]
  exact List.map_id _

/-- The keys with no part in the filter: those of options, and those of criteria that one under
`where` replaces. -/
def idleKeys (selection : Selection) : List String :=
  ["orderBy", "sort", "skip", "offset", "limit"] ++
    selection.whereFields.keys.filter (· ≠ "where")

theorem not_mem_idleKeys {selection : Selection} {key : String}
    (unreserved : isReserved key = false) (unnamed : selection.whereFields.hasKey key = false) :
    key ∉ selection.idleKeys := by
  intro idle
  rcases List.mem_append.mp idle with ofOptions | replaced
  · have allReserved : ∀ key ∈ ["orderBy", "sort", "skip", "offset", "limit"],
        isReserved key = true := by decide
    rw [allReserved key ofOptions] at unreserved
    cases unreserved
  · have named := (Document.hasKey_iff _ key).mpr (List.mem_filter.mp replaced).1
    rw [unnamed] at named
    cases named

theorem criteria_congr {selection other : Selection}
    (sameOthers : other.entries.filter (fun entry => entry.1 ∉ selection.idleKeys) =
      selection.entries.filter fun entry => entry.1 ∉ selection.idleKeys) :
    other.criteria = selection.criteria := by
  have whereKept : ∀ entries : Document,
      Document.get? (entries.filter fun entry => entry.1 ∉ selection.idleKeys) "where" =
        entries.get? "where" :=
    Document.get?_filter_key (fun key => key ∉ selection.idleKeys) (by simp [idleKeys])
  have sameWhere : other.whereFields = selection.whereFields := by
    rw [whereFields, whereFields, Document.child, Document.child, ← whereKept, sameOthers,
      whereKept]
  -- what is kept as a criterion is not idle
  have keptTwice : ∀ entries : Document,
      (entries.filter fun entry => entry.1 ∉ selection.idleKeys).filter
        (fun entry => !isReserved entry.1 && !selection.whereFields.hasKey entry.1) =
      entries.filter fun entry => !isReserved entry.1 && !selection.whereFields.hasKey entry.1 := by
    apply Document.filter_filter_of_imp
    intro entry keeps
    rw [Bool.and_eq_true, Bool.not_eq_true', Bool.not_eq_true'] at keeps
    exact decide_eq_true (not_mem_idleKeys keeps.1 keeps.2)
  have sameTopLevel : other.topLevelFields = selection.topLevelFields := by
    rw [topLevelFields, sameWhere, ← keptTwice, sameOthers, keptTwice]
    rfl
  rw [criteria, criteria, sameWhere, sameTopLevel]

end Selection

/-- The keys of a filter are the fields with a plain operator in the order of their criteria, then
that of the group if there is an alternative, and the group has a term for each of them.  The query
that asks the same criteria under `where` and as operators has the same filter, and so has every
query that differs in options and in replaced criteria only. -/
theorem filter_laid_out (selection : Selection) :
    ((∀ criterion ∈ selection.criteria,
        operations false criterion.2 ≠ [] → criterion.1 ≠ "$or") →
      Document.keys selection.filter =
          (selection.criteria.filter fun criterion =>
            operations false criterion.2 ≠ []).map Prod.fst ++
          (if ∃ criterion ∈ selection.criteria, operations true criterion.2 ≠ [] then ["$or"]
            else []) ∧
        Document.get? selection.filter "$or" =
          if ∃ criterion ∈ selection.criteria, operations true criterion.2 ≠ [] then
            some (.array (selection.criteria.flatMap fun criterion =>
              (operations true criterion.2).map fun operation =>
                .object [(criterion.1, operation.1.condition operation.2)]))
          else none) ∧
      selection.explicit.filter = selection.filter ∧
      ∀ other : Selection,
        other.entries.filter (fun entry => entry.1 ∉ selection.idleKeys) =
            selection.entries.filter (fun entry => entry.1 ∉ selection.idleKeys) →
          other.filter = selection.filter := by
  refine ⟨?_, ?_, ?_⟩
  · intro noGroup
    have absent : "$or" ∉ Document.keys (plainConditions selection.criteria) :=
      alternativesKey_not_mem_keys noGroup
    simp only [← alternativeTerms_ne_nil_iff, ← alternativeTerms_eq, ← keys_plainConditions]
    by_cases nothing : alternativeTerms selection.criteria = []
    · simp [Selection.filter_of_no_terms nothing, nothing, Document.get?_eq_none absent]
    · simp [Selection.filter_of_terms nothing, nothing, alternativesKey, Document.keys_set, absent]
  · exact Selection.filter_congr selection.criteria_explicit
  · intro other sameOthers
    exact Selection.filter_congr (Selection.criteria_congr sameOthers)

theorem filter_laid_out_mixedSelection :
    (∀ criterion ∈ mixedSelection.criteria,
        operations false criterion.2 ≠ [] → criterion.1 ≠ "$or") ∧
      Document.keys mixedSelection.filter = ["age", "name", "$or"] ∧
      Document.get? mixedSelection.filter "$or" = some (.array
        [.object [("age", .object [("$lt", .string "e")])],
          .object [("city", .array [.string "Oslo"])]]) ∧
      mixedSelection.explicit.filter = mixedSelection.filter ∧
      Selection.filter ⟨("age", .null) :: mixedSelection.entries.erase ("limit", .string "5")⟩ =
        mixedSelection.filter := by
  have noGroup : ∀ criterion ∈ mixedSelection.criteria,
      operations false criterion.2 ≠ [] → criterion.1 ≠ "$or" := by decide
  obtain ⟨shape, sameExplicit, sameOther⟩ := filter_laid_out mixedSelection
  obtain ⟨keys, group⟩ := shape noGroup
  refine ⟨noGroup, ?_, ?_, sameExplicit, ?_⟩
  · rw [keys]
    decide
  · rw [group]
    decide
  · apply sameOther
    decide

end RecordGraph
