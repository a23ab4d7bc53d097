import RecordGraph.Proofs.Pages

/-!
# Criteria added to a query

A criterion that is added under `where` joins the operators that its field has there, and takes
the place of a literal.  If it demands something of the field itself, nothing is lost by this,
since an equality has no part in a condition that goes on after it.  An alternative and an unknown
token demand nothing of the field, and then the literal is lost.
-/

namespace RecordGraph

/-! ## Writing a key -/

namespace Document

theorem exists_set_split (document : Document) (key : String) :
    ∃ before after : Document, key ∉ before.keys ∧ (document.UniqueKeys → key ∉ after.keys) ∧
      ∀ value, document.set key value = before ++ (key, value) :: after := by
  induction document with
  | nil => exact ⟨[], [], List.not_mem_nil, fun _ => List.not_mem_nil, fun _ => rfl⟩
  | cons entry rest inductionHypothesis =>
      obtain ⟨first, held⟩ := entry
      by_cases isKey : first = key
      · refine ⟨[], rest, List.not_mem_nil, ?_, ?_⟩
        · intro unique
          rw [← isKey]
          exact (List.nodup_cons.mp unique).1
        · intro value
          rw [set, if_pos isKey, isKey]
          rfl
      · obtain ⟨before, after, notBefore, notAfter, split⟩ := inductionHypothesis
        refine ⟨(first, held) :: before, after, ?_, ?_, ?_⟩
        · exact List.not_mem_cons_of_ne_of_not_mem (Ne.symm isKey) notBefore
        · intro unique
          exact notAfter (List.nodup_cons.mp unique).2
        · intro value
          rw [set, if_neg isKey, split]
          rfl

theorem map_set (change : Value → Value) (document : Document) (key : String) (value : Value) :
    (document.set key value).map (fun entry => (entry.1, change entry.2)) =
      set (document.map fun entry => (entry.1, change entry.2)) key (change value) := by
  induction document with
  | nil => rfl
  | cons entry rest inductionHypothesis =>
      obtain ⟨first, held⟩ := entry
      by_cases isKey : first = key
      · simp [set, isKey]
      · simp [set, isKey, inductionHypothesis]

theorem get?_map (change : Value → Value) (document : Document) (key : String) :
    get? (document.map fun entry => (entry.1, change entry.2)) key =
      (document.get? key).map change := by
  induction document with
  | nil => rfl
  | cons entry rest inductionHypothesis =>
      obtain ⟨first, held⟩ := entry
      rw [List.map_cons, get?_cons, get?_cons, inductionHypothesis]
      split <;> rfl

theorem hasKey_set (document : Document) (key other : String) (value : Value) :
    (document.set key value).hasKey other = (other == key || document.hasKey other) := by
  by_cases isKey : other = key
  · simp [hasKey, isKey]
  · simp [hasKey, get?_set_of_ne isKey, isKey]

theorem filter_set_of_kept (keeps : String → Bool) {key : String} (kept : keeps key = true)
    (document : Document) (value : Value) :
    (document.set key value).filter (keeps ·.1) =
      set (document.filter (keeps ·.1)) key value := by
  induction document with
  | nil => simp [set, kept]
  | cons entry rest inductionHypothesis =>
      obtain ⟨first, held⟩ := entry
      by_cases isKey : first = key
      · simp [set, isKey, kept]
      · rw [set, if_neg isKey, List.filter_cons, List.filter_cons, inductionHypothesis]
        split
        · rw [set, if_neg isKey]
        · rfl

theorem filter_key_split {before after : Document} {key : String}
    (notBefore : key ∉ before.keys) (notAfter : key ∉ after.keys) (value : Value) :
    (before ++ (key, value) :: after).filter (·.1 ≠ key) = before ++ after ∧
      (before ++ (key, value) :: after).filter (·.1 = key) = [(key, value)] := by
  have differs : ∀ {part : Document}, key ∉ part.keys → ∀ entry ∈ part, entry.1 ≠ key := by
    intro part absent entry member isKey
    exact absent (List.mem_map.mpr ⟨entry, member, isKey⟩)
  have kept : ∀ {part : Document}, key ∉ part.keys → part.filter (·.1 ≠ key) = part := by
    intro part absent
    rw [List.filter_eq_self]
    intro entry member
    exact decide_eq_true (differs absent entry member)
  have dropped : ∀ {part : Document}, key ∉ part.keys → part.filter (·.1 = key) = [] := by
    intro part absent
    rw [List.filter_eq_nil_iff]
    intro entry member
    rw [decide_eq_true_iff]
    exact differs absent entry member
  constructor
  · rw [List.filter_append, List.filter_cons_of_neg (by simp), kept notBefore, kept notAfter]
  · rw [List.filter_append, List.filter_cons_of_pos (by simp), dropped notBefore, dropped notAfter,
      List.nil_append]

end Document

/-! ## Replacing the operators of a field -/

namespace Selection

/-- The query with some operators for a field under `where`, in place of what is there. -/
def replacing (selection : Selection) (field : String) (operators : Document) : Selection :=
  ⟨selection.entries.set "where" (.object (selection.whereFields.set field (.object operators)))⟩

variable (selection : Selection) (field : String)

theorem whereFields_set (fields : Document) :
    whereFields ⟨selection.entries.set "where" (.object fields)⟩ = fields :=
  whereFields_of_get? (Document.get?_set_self _ _ _)

theorem topLevelFields_set (fields : Document) :
    topLevelFields ⟨selection.entries.set "where" (.object fields)⟩ =
      selection.entries.filter fun entry =>
        !isReserved entry.1 && !fields.hasKey entry.1 := by
  rw [topLevelFields, whereFields_set]
  apply Document.filter_set_of_dropped
  intro held
  have isReservedKey : isReserved "where" = true := by decide
  simp [isReservedKey]

/-- Only the operators of the field itself change. -/
theorem exists_criteria_replacing :
    ∃ before after : List (String × Document), (∀ criterion ∈ before, criterion.1 ≠ field) ∧
      (selection.whereFields.UniqueKeys → ∀ criterion ∈ after, criterion.1 ≠ field) ∧
      ∀ operators, (selection.replacing field operators).criteria =
        before ++ (field, operators) :: after := by
  obtain ⟨before, after, notBefore, notAfter, split⟩ :=
    selection.whereFields.exists_set_split field
  refine ⟨before.map fun entry => (entry.1, entry.2.operands),
    (after ++ selection.entries.filter fun entry =>
      !isReserved entry.1 && !(entry.1 == field || selection.whereFields.hasKey entry.1)).map
        fun entry => (entry.1, entry.2.operands), ?_, ?_, ?_⟩
  · intro criterion member isField
    obtain ⟨entry, inBefore, rfl⟩ := List.mem_map.mp member
    exact notBefore (List.mem_map.mpr ⟨entry, inBefore, isField⟩)
  · intro unique criterion member isField
    obtain ⟨entry, inEither, rfl⟩ := List.mem_map.mp member
    rcases List.mem_append.mp inEither with inAfter | atTopLevel
    · exact notAfter unique (List.mem_map.mpr ⟨entry, inAfter, isField⟩)
    · simp [show entry.1 = field from isField] at atTopLevel
  · intro operators
    rw [criteria, replacing, whereFields_set, topLevelFields_set]
    simp only [Document.hasKey_set]
    rw [split, List.append_assoc, List.map_append]
    rfl

/-! ## Literals written as operators -/

/-- The query with every literal under `where` written as an operator. -/
def desugared (selection : Selection) : Selection :=
  match selection.entries.get? "where" with
  | some (.object fields) =>
      ⟨selection.entries.set "where"
        (.object (fields.map fun entry => (entry.1, .object entry.2.operands)))⟩
  | _ => selection

/-- The literal that stands at a field under `where`. -/
def literalAt? (selection : Selection) (field : String) : Option Value :=
  (selection.whereFields.get? field).filter fun criterion => criterion.document?.isNone

theorem whereFields_desugared (selection : Selection) :
    selection.desugared.whereFields =
      selection.whereFields.map fun entry => (entry.1, .object entry.2.operands) := by
  by_cases present : ∃ fields, selection.entries.get? "where" = some (.object fields)
  · obtain ⟨fields, found⟩ := present
    rw [whereFields_of_get? found, desugared, found]
    exact selection.whereFields_set _
  · have absent : ∀ fields, selection.entries.get? "where" ≠ some (.object fields) :=
      fun fields found => present ⟨fields, found⟩
    have same : selection.desugared = selection := by
      rw [desugared]
      split
      · rename_i fields found
        exact absurd found (absent fields)
      · rfl
    rw [same, whereFields_eq_nil absent]
    rfl

theorem set_desugared (selection : Selection) (value : Value) :
    selection.desugared.entries.set "where" value = selection.entries.set "where" value := by
  rw [desugared]
  split
  · exact Document.set_set _ _ _ _
  · rfl

theorem criteria_set_operands (selection : Selection) (fields : Document) :
    criteria ⟨selection.entries.set "where"
        (.object (fields.map fun entry => (entry.1, .object entry.2.operands)))⟩ =
      criteria ⟨selection.entries.set "where" (.object fields)⟩ := by
  have sameKeys : ∀ key, Document.hasKey
      (fields.map fun entry => (entry.1, .object entry.2.operands)) key = fields.hasKey key := by
    intro key
    rw [Document.hasKey, Document.hasKey,
      Document.get?_map fun criterion => .object criterion.operands, Option.isSome_map]
  rw [criteria, criteria, whereFields_set, whereFields_set, topLevelFields_set, topLevelFields_set]
  simp only [sameKeys, List.map_append, List.map_map]
  rfl

theorem filter_replacing_desugared (selection : Selection) (field : String)
    (operators : Document) :
    (selection.desugared.replacing field operators).filter =
      (selection.replacing field operators).filter := by
  apply filter_congr
  have mapped := Document.map_set (fun criterion => .object criterion.operands)
    selection.whereFields field (.object operators)
  rw [replacing, replacing, set_desugared, whereFields_desugared, ← criteria_set_operands selection
    (selection.whereFields.set field (.object operators)), mapped]
  rfl

end Selection

/-! ## Tokens after an equality -/

section Tokens

variable {token : String}

theorem operations_after_equality (token : String) (literal value : Value) :
    operations true (Document.set [("==", literal)] token value) =
      operations true [(token, value)] := by
  have plain : Comparator.ofToken? "==" = some ⟨.equal, false⟩ := by decide
  by_cases isEquality : "==" = token
  · simp [Document.set, isEquality]
  · simp [Document.set, isEquality, operations, plain]

namespace Demand

/-- An equality has no part in what is demanded after it. -/
theorem ofTokens_after_equality
    (demands : ∃ operator, Comparator.ofToken? token = some ⟨operator, false⟩)
    (literal value : Value) :
    ofTokens (Document.set [("==", literal)] token value) = ofTokens [(token, value)] := by
  have plain : Comparator.ofToken? "==" = some ⟨.equal, false⟩ := by decide
  by_cases isEquality : "==" = token
  · rw [Document.set, if_pos isEquality, isEquality]
  · obtain ⟨operator, read⟩ := demands
    rw [Document.set, if_neg isEquality, Document.set]
    simp only [ofTokens, List.foldl_cons, List.foldl_nil, addToken, plain, read]
    cases keyed : operator.key? with
    | none => simp only [add, keyed]
    -- after an equality, a comparison starts a new document of operators
    | some key => simp only [add, Operator.key?]

theorem addToken_of_not_demanding
    (idle : ∀ operator, Comparator.ofToken? token ≠ some ⟨operator, false⟩) (demand : Demand)
    (value : Value) : demand.addToken (token, value) = demand := by
  rw [addToken]
  split
  · rename_i operator read
    exact absurd read (idle operator)
  · rfl

theorem condition?_of_not_demanding
    (idle : ∀ operator, Comparator.ofToken? token ≠ some ⟨operator, false⟩)
    (literal value : Value) :
    (ofTokens [(token, value)]).condition? = none ∧
      (ofTokens (Document.set [("==", literal)] token value)).condition? = some literal := by
  have plain : Comparator.ofToken? "==" = some ⟨.equal, false⟩ := by decide
  have notEquality : "==" ≠ token := by
    intro isEquality
    exact idle .equal (isEquality ▸ plain)
  constructor
  · rw [ofTokens, List.foldl_cons, List.foldl_nil, addToken_of_not_demanding idle]
    rfl
  · rw [Document.set, if_neg notEquality, Document.set, ofTokens, List.foldl_cons, List.foldl_cons,
      List.foldl_nil, addToken_of_not_demanding idle, addToken]
    simp only [plain, add, Operator.key?, condition?]

end Demand

end Tokens

/-! ## Conditions of a replaced field -/

theorem plainConditions_split (before after : List (String × Document)) (field : String)
    (operators : Document) :
    plainConditions (before ++ (field, operators) :: after) =
      plainConditions before ++
        ((Demand.ofTokens operators).condition?.map fun condition =>
          (field, condition)).toList ++ plainConditions after := by
  cases made : (Demand.ofTokens operators).condition? <;>
    simp [plainConditions, List.filterMap_append, made]

theorem alternativeTerms_congr {first second : Document}
    (sameAlternatives : operations true first = operations true second)
    (before after : List (String × Document)) (field : String) :
    alternativeTerms (before ++ (field, first) :: after) =
      alternativeTerms (before ++ (field, second) :: after) := by
  simp only [alternativeTerms_eq, List.flatMap_append, List.flatMap_cons, sameAlternatives]

theorem not_mem_keys_plainConditions {criteria : List (String × Document)} {field : String}
    (others : ∀ criterion ∈ criteria, criterion.1 ≠ field) :
    field ∉ Document.keys (plainConditions criteria) := by
  rw [keys_plainConditions]
  intro member
  obtain ⟨criterion, kept, isField⟩ := List.mem_map.mp member
  exact others criterion (List.mem_filter.mp kept).1 isField

/-! ## Conditions of one field -/

section Own

variable {filter : Document} {field : String} {literal : Value}
  (own : filter.filter (·.1 = field) = [(field, literal)])
include own

theorem get?_of_own : filter.get? field = some literal := by
  rw [← Document.get?_filter_key (· = field) (decide_eq_true rfl), own, Document.get?_cons,
    if_pos rfl]

theorem satisfies_iff_of_own (notGroup : field ≠ alternativesKey) (record : Document) :
    satisfies record filter = true ↔
      satisfies record (filter.filter (·.1 ≠ field)) = true ∧
        satisfiesCondition (record.read? field) literal = true := by
  rw [satisfies_iff, satisfies_iff]
  constructor
  · intro all
    constructor
    · intro entry member
      exact all entry (List.mem_filter.mp member).1
    · have listed : (field, literal) ∈ filter.filter (·.1 = field) :=
        own ▸ List.mem_singleton_self _
      have holds := all (field, literal) (List.mem_filter.mp listed).1
      rwa [if_neg notGroup] at holds
  · intro both entry member
    by_cases isField : entry.1 = field
    · have listed : entry ∈ filter.filter (·.1 = field) :=
        List.mem_filter.mpr ⟨member, decide_eq_true isField⟩
      rw [own, List.mem_singleton] at listed
      rw [listed, if_neg notGroup]
      exact both.2
    · exact both.1 entry (List.mem_filter.mpr ⟨member, decide_eq_true isField⟩)

end Own

namespace Selection

variable {selection : Selection} {field : String} {fewer more : Document}

theorem filter_replacing_congr (selection : Selection) (field : String)
    (sameDemand : Demand.ofTokens fewer = Demand.ofTokens more)
    (sameAlternatives : operations true fewer = operations true more) :
    (selection.replacing field fewer).filter = (selection.replacing field more).filter := by
  obtain ⟨before, after, _, _, split⟩ := selection.exists_criteria_replacing field
  have sameConditions : plainConditions (selection.replacing field fewer).criteria =
      plainConditions (selection.replacing field more).criteria := by
    rw [split, split, plainConditions_split, plainConditions_split, sameDemand]
  have sameTerms : alternativeTerms (selection.replacing field fewer).criteria =
      alternativeTerms (selection.replacing field more).criteria := by
    rw [split, split, alternativeTerms_congr sameAlternatives]
  rw [filter, filter, sameConditions, sameTerms]

/-- A condition that only one of two lists of operators makes is all that their filters differ
in, unless it stands where the group of alternatives goes. -/
theorem filter_replacing_of_lost (unique : selection.whereFields.UniqueKeys) (field : String)
    {literal : Value}
    (nothing : (Demand.ofTokens fewer).condition? = none)
    (equality : (Demand.ofTokens more).condition? = some literal)
    (sameAlternatives : operations true fewer = operations true more) :
    (field ≠ alternativesKey ∨
        alternativeTerms (selection.replacing field fewer).criteria = [] →
      (selection.replacing field more).filter.filter (·.1 ≠ field) =
          (selection.replacing field fewer).filter ∧
        (selection.replacing field more).filter.filter (·.1 = field) = [(field, literal)]) ∧
    (field = alternativesKey →
      alternativeTerms (selection.replacing field fewer).criteria ≠ [] →
        ∀ key, Document.get? (selection.replacing field more).filter key =
          Document.get? (selection.replacing field fewer).filter key) := by
  obtain ⟨before, after, notBefore, notAfter, split⟩ := selection.exists_criteria_replacing field
  have sameTerms : alternativeTerms (selection.replacing field more).criteria =
      alternativeTerms (selection.replacing field fewer).criteria := by
    rw [split, split, alternativeTerms_congr sameAlternatives]
  have fewerConditions : plainConditions (selection.replacing field fewer).criteria =
      plainConditions before ++ plainConditions after := by
    rw [split, plainConditions_split, nothing, Option.map_none, Option.toList_none, List.append_nil]
  have moreConditions : plainConditions (selection.replacing field more).criteria =
      plainConditions before ++ (field, literal) :: plainConditions after := by
    rw [split, plainConditions_split, equality, Option.map_some, Option.toList_some,
      List.append_assoc, List.singleton_append]
  have absentBefore := not_mem_keys_plainConditions notBefore
  have absentAfter := not_mem_keys_plainConditions (notAfter unique)
  obtain ⟨others, own⟩ := Document.filter_key_split absentBefore absentAfter literal
  rw [← moreConditions] at others own
  rw [← fewerConditions] at others
  constructor
  · intro apart
    by_cases noTerms : alternativeTerms (selection.replacing field fewer).criteria = []
    · rw [filter_of_no_terms noTerms, filter_of_no_terms (sameTerms.trans noTerms)]
      exact ⟨others, own⟩
    · -- the group is written at another key, where it keeps the order of the others
      have notGroup : alternativesKey ≠ field := (apart.resolve_right noTerms).symm
      rw [filter_of_terms noTerms, filter_of_terms (sameTerms ▸ noTerms), sameTerms,
        Document.filter_set_of_kept (· ≠ field) (decide_eq_true notGroup), others,
        Document.filter_set_of_dropped fun _ => decide_eq_false notGroup, own]
      exact ⟨rfl, rfl⟩
  · intro isGroup terms key
    rw [filter_of_terms terms, filter_of_terms (sameTerms ▸ terms), sameTerms]
    by_cases isKey : key = alternativesKey
    · rw [isKey, Document.get?_set_self, Document.get?_set_self]
    · rw [Document.get?_set_of_ne isKey, Document.get?_set_of_ne isKey, ← others]
      exact (Document.get?_filter_key (· ≠ field) (decide_eq_true (isGroup ▸ isKey)) _).symm

/-! ## Adding a criterion -/

theorem child_desugared (noLiteral : selection.literalAt? field = none) :
    selection.desugared.whereFields.child field = selection.whereFields.child field := by
  rw [whereFields_desugared, Document.child, Document.child,
    Document.get?_map fun criterion => .object criterion.operands]
  cases found : selection.whereFields.get? field with
  | none => rfl
  | some criterion =>
      rw [literalAt?, found] at noLiteral
      cases criterion with
      | object operators => rfl
      | _ => cases noLiteral

theorem child_of_literal {literal : Value} (stands : selection.literalAt? field = some literal) :
    selection.whereFields.child field = [] ∧
      selection.desugared.whereFields.child field = [("==", literal)] := by
  obtain ⟨found, isLiteral⟩ := Option.filter_eq_some_iff.mp stands
  rw [whereFields_desugared, Document.child, Document.child,
    Document.get?_map fun criterion => .object criterion.operands, found]
  cases literal with
  | object operators => cases isLiteral
  | _ => exact ⟨rfl, rfl⟩

theorem withWhere_eq_replacing (selection : Selection) (field token : String) (value : Value) :
    selection.withWhere field token value =
      selection.replacing field ((selection.whereFields.child field).set token value) := rfl

theorem filter_withWhere_desugared (selection : Selection) (field token : String)
    (value : Value) :
    (selection.desugared.withWhere field token value).filter =
      (selection.replacing field
        ((selection.desugared.whereFields.child field).set token value)).filter := by
  rw [withWhere_eq_replacing]
  exact selection.filter_replacing_desugared field _

section Added

variable {token : String} {literal : Value} (value : Value)

theorem withWhere_of_literal (stands : selection.literalAt? field = some literal) (token : String) :
    selection.withWhere field token value = selection.replacing field [(token, value)] := by
  rw [withWhere_eq_replacing, (child_of_literal stands).1, Document.set]

theorem filter_withWhere_desugared_of_literal
    (stands : selection.literalAt? field = some literal) (token : String) :
    (selection.desugared.withWhere field token value).filter =
      (selection.replacing field (Document.set [("==", literal)] token value)).filter := by
  rw [filter_withWhere_desugared, (child_of_literal stands).2]

theorem filter_withWhere_of_no_literal (noLiteral : selection.literalAt? field = none)
    (token : String) :
    (selection.withWhere field token value).filter =
      (selection.desugared.withWhere field token value).filter := by
  rw [filter_withWhere_desugared, child_desugared noLiteral, withWhere_eq_replacing]

theorem filter_withWhere_of_demanding (stands : selection.literalAt? field = some literal)
    (demands : ∃ operator, Comparator.ofToken? token = some ⟨operator, false⟩) :
    (selection.withWhere field token value).filter =
      (selection.desugared.withWhere field token value).filter := by
  rw [withWhere_of_literal value stands, filter_withWhere_desugared_of_literal value stands]
  apply selection.filter_replacing_congr field
  · exact (Demand.ofTokens_after_equality demands literal value).symm
  · exact (operations_after_equality token literal value).symm

/-- Nothing is lost without a literal at the field, or with a token that demands something of
it. -/
theorem filter_withWhere_of_kept
    (kept : selection.literalAt? field = none ∨
      ∃ operator, Comparator.ofToken? token = some ⟨operator, false⟩) :
    (selection.withWhere field token value).filter =
      (selection.desugared.withWhere field token value).filter := by
  cases stands : selection.literalAt? field with
  | none => exact filter_withWhere_of_no_literal value stands token
  | some literal =>
      have demands := kept.resolve_left (by simp [stands])
      exact filter_withWhere_of_demanding value stands demands

theorem filter_withWhere_of_lost (unique : selection.whereFields.UniqueKeys)
    (stands : selection.literalAt? field = some literal)
    (idle : ∀ operator, Comparator.ofToken? token ≠ some ⟨operator, false⟩) :
    (field ≠ alternativesKey ∨
        alternativeTerms (selection.withWhere field token value).criteria = [] →
      (selection.desugared.withWhere field token value).filter.filter (·.1 ≠ field) =
          (selection.withWhere field token value).filter ∧
        (selection.desugared.withWhere field token value).filter.filter (·.1 = field) =
          [(field, literal)]) ∧
    (field = alternativesKey →
      alternativeTerms (selection.withWhere field token value).criteria ≠ [] →
        ∀ key, Document.get? (selection.desugared.withWhere field token value).filter key =
          Document.get? (selection.withWhere field token value).filter key) := by
  obtain ⟨nothing, equality⟩ := Demand.condition?_of_not_demanding idle literal value
  rw [withWhere_of_literal value stands, filter_withWhere_desugared_of_literal value stands]
  exact filter_replacing_of_lost unique field nothing equality
    (operations_after_equality token literal value).symm

/-- The two filters read alike unless the literal is lost and was not replaced by the group. -/
theorem get?_filter_withWhere_iff (unique : selection.whereFields.UniqueKeys)
    (field token : String) :
    (∀ key, (selection.withWhere field token value).filter.get? key =
        (selection.desugared.withWhere field token value).filter.get? key) ↔
      selection.literalAt? field = none ∨
        (∃ operator, Comparator.ofToken? token = some ⟨operator, false⟩) ∨
          field = alternativesKey ∧
            alternativeTerms (selection.withWhere field token value).criteria ≠ [] := by
  by_cases kept : selection.literalAt? field = none ∨
      ∃ operator, Comparator.ofToken? token = some ⟨operator, false⟩
  · rw [filter_withWhere_of_kept value kept, ← or_assoc]
    exact iff_of_true (fun _ => rfl) (Or.inl kept)
  · obtain ⟨someLiteral, notDemanding⟩ := not_or.mp kept
    obtain ⟨literal, stands⟩ := Option.ne_none_iff_exists'.mp someLiteral
    obtain ⟨apart, atGroup⟩ :=
      filter_withWhere_of_lost value unique stands (not_exists.mp notDemanding)
    rw [← or_assoc, or_iff_right kept]
    constructor
    · -- the literal is in one of the filters only
      intro sameReads
      by_contra notGroup
      obtain ⟨others, own⟩ := apart ((not_and_or.mp notGroup).imp_right not_not.mp)
      have readsLiteral := (sameReads field).trans (get?_of_own own)
      rw [← others, Document.get?_filter_ne] at readsLiteral
      cases readsLiteral
    · intro isGroup key
      exact (atGroup isGroup.1 isGroup.2 key).symm

end Added

end Selection

/-- A criterion that is added to a query does what it does with the literals under `where` written
as operators, unless a literal stands at its field and its token demands nothing of the field
itself.  Then the literal is lost, and with it what it asks of a record; only in the place of the
group of alternatives it is replaced either way. -/
theorem literal_kept_iff (selection : Selection) (unique : selection.whereFields.UniqueKeys)
    (field token : String) (value : Value) :
    let added := (selection.withWhere field token value).filter
    let addedToOperators := (selection.desugared.withWhere field token value).filter
    let terms := alternativeTerms (selection.withWhere field token value).criteria
    (selection.literalAt? field = none ∨
        (∃ operator, Comparator.ofToken? token = some ⟨operator, false⟩) →
      added = addedToOperators) ∧
    ((∀ key, added.get? key = addedToOperators.get? key) ↔
      selection.literalAt? field = none ∨
        (∃ operator, Comparator.ofToken? token = some ⟨operator, false⟩) ∨
          field = "$or" ∧ terms ≠ []) ∧
    ∀ literal, selection.literalAt? field = some literal →
      (∀ operator, Comparator.ofToken? token ≠ some ⟨operator, false⟩) →
        (field ≠ "$or" ∨ terms = [] →
          addedToOperators.filter (·.1 ≠ field) = added ∧
            addedToOperators.filter (·.1 = field) = [(field, literal)]) ∧
        (field ≠ "$or" → ∀ record, satisfies record addedToOperators = true ↔
          satisfies record added = true ∧
            satisfiesCondition (record.read? field) literal = true) := by
  intro added addedToOperators terms
  refine ⟨Selection.filter_withWhere_of_kept value,
    Selection.get?_filter_withWhere_iff value unique field token, ?_⟩
  intro literal stands idle
  have apart := (Selection.filter_withWhere_of_lost value unique stands idle).1
  refine ⟨apart, ?_⟩
  intro notGroup record
  obtain ⟨others, own⟩ := apart (Or.inl notGroup)
  rw [satisfies_iff_of_own own notGroup, others]

/-- A query for one team, as a literal. -/
def oneTeam : Selection := ⟨[("where", .object [("team", .string "a")])]⟩

/-- A comparison goes on after the literal, written either way.  An alternative takes its place,
and so does an unknown token, with which every record is wanted. -/
theorem literal_kept_oneTeam :
    oneTeam.whereFields.UniqueKeys ∧
      (oneTeam.withWhere "team" "!=" (.string "b")).filter =
        (oneTeam.desugared.withWhere "team" "!=" (.string "b")).filter ∧
      (¬ ∀ key, (oneTeam.withWhere "team" "|==" (.string "b")).filter.get? key =
        (oneTeam.desugared.withWhere "team" "|==" (.string "b")).filter.get? key) ∧
      (oneTeam.desugared.withWhere "team" "|==" (.string "b")).filter.filter (·.1 ≠ "team") =
        (oneTeam.withWhere "team" "|==" (.string "b")).filter ∧
      satisfies (rosterUser "1" "b") (oneTeam.withWhere "team" "like" .null).filter = true ∧
      satisfies (rosterUser "1" "b") (oneTeam.desugared.withWhere "team" "like" .null).filter =
        false := by
  have unique : oneTeam.whereFields.UniqueKeys := List.nodup_singleton "team"
  have stands : oneTeam.literalAt? "team" = some (.string "a") := by decide
  have alternative : Comparator.ofToken? "|==" = some ⟨.equal, true⟩ := by decide
  have unknown : Comparator.ofToken? "like" = none := by decide
  have alternativeIdle : ∀ operator, Comparator.ofToken? "|==" ≠ some ⟨operator, false⟩ := by
    simp [alternative]
  have unknownIdle : ∀ operator, Comparator.ofToken? "like" ≠ some ⟨operator, false⟩ := by
    simp [unknown]
  obtain ⟨goesOn, _⟩ := literal_kept_iff oneTeam unique "team" "!=" (.string "b")
  obtain ⟨_, sameIff, replaced⟩ := literal_kept_iff oneTeam unique "team" "|==" (.string "b")
  obtain ⟨_, _, dropped⟩ := literal_kept_iff oneTeam unique "team" "like" .null
  refine ⟨unique, goesOn (Or.inr ⟨.notEqual, by decide⟩), ?_, ?_, by decide, ?_⟩
  · rw [sameIff, stands, alternative]
    simp
  · exact ((replaced _ stands alternativeIdle).1 (Or.inl (by decide))).1
  · rw [← Bool.not_eq_true, (dropped _ stands unknownIdle).2 (by decide)]
    decide

end RecordGraph
