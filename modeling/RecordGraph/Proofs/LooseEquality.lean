import Mathlib.Data.List.Perm.Subperm
import RecordGraph.Json.Compare
import RecordGraph.Path
import RecordGraph.Proofs.ShortestDecimal

/-!
# Loose equality as a relation

Loosely equal values are equal in both directions, are equal to the same values and are
true or false together.  The first needs objects without repeated keys, since content is
compared by looking up the keys of the left object in the right one.
-/

namespace RecordGraph

/-! ## Well-formed parts -/

namespace Document

theorem mem_of_get? {document : Document} {key : String} {value : Value}
    (found : document.get? key = some value) : (key, value) ∈ document := by
  induction document with
  | nil => simp at found
  | cons entry rest inductionHypothesis =>
      rcases entry with ⟨first, held⟩
      rw [get?_cons] at found
      split at found
      · rename_i sameKey
        obtain rfl := Option.some.inj found
        rw [sameKey]
        exact List.mem_cons_self
      · exact List.mem_cons_of_mem _ (inductionHypothesis found)

theorem get?_of_mem {document : Document} (unique : document.UniqueKeys) {key : String}
    {value : Value} (member : (key, value) ∈ document) : document.get? key = some value := by
  induction document with
  | nil => simp at member
  | cons entry rest inductionHypothesis =>
      rcases entry with ⟨first, held⟩
      obtain ⟨fresh, restUnique⟩ := List.nodup_cons.mp unique
      rw [get?_cons]
      rcases List.mem_cons.mp member with isFirst | inRest
      · obtain ⟨rfl, rfl⟩ := Prod.mk.inj isFirst
        exact if_pos rfl
      · have differs : key ≠ first := by
          intro same
          exact fresh (List.mem_map.mpr ⟨_, inRest, same⟩)
        rw [if_neg differs]
        exact inductionHypothesis restUnique inRest

end Document

namespace Value

theorem wellFormedItems_iff (items : List Value) :
    WellFormedItems items ↔ ∀ item ∈ items, item.WellFormed := by
  induction items with
  | nil => simp [WellFormedItems]
  | cons item rest inductionHypothesis =>
      simp [WellFormedItems, inductionHypothesis]

theorem wellFormedEntries_iff (entries : List (String × Value)) :
    WellFormedEntries entries ↔ ∀ entry ∈ entries, entry.2.WellFormed := by
  induction entries with
  | nil => simp [WellFormedEntries]
  | cons entry rest inductionHypothesis =>
      rcases entry with ⟨key, value⟩
      simp [WellFormedEntries, inductionHypothesis]

theorem WellFormed.item {items : List Value} (formed : (array items).WellFormed) {item : Value}
    (member : item ∈ items) : item.WellFormed :=
  (wellFormedItems_iff items).mp formed item member

theorem WellFormed.get? {entries : Document} (formed : (object entries).WellFormed)
    {key : String} {value : Value} (found : entries.get? key = some value) :
    value.WellFormed :=
  (wellFormedEntries_iff entries).mp formed.2 _ (Document.mem_of_get? found)

theorem WellFormed.child? {value part : Value} (formed : value.WellFormed) {segment : String}
    (found : value.child? segment = some part) : part.WellFormed := by
  cases value with
  | object entries => exact formed.get? found
  | array items =>
      obtain ⟨index, _, atIndex⟩ := Option.bind_eq_some_iff.mp found
      exact formed.item (List.mem_of_getElem? atIndex)
  | _ => simp [Value.child?] at found

theorem WellFormed.follow {value part : Value} (formed : value.WellFormed)
    {path : List String} (found : value.follow path = some part) : part.WellFormed := by
  induction path generalizing value with
  | nil =>
      obtain rfl := Option.some.inj found
      exact formed
  | cons segment rest inductionHypothesis =>
      obtain ⟨next, nextFound, restFound⟩ := Option.bind_eq_some_iff.mp found
      exact inductionHypothesis (formed.child? nextFound) restFound

theorem WellFormed.read? {document : Document} (formed : (object document).WellFormed)
    {path : String} {value : Value} (found : document.read? path = some value) :
    value.WellFormed :=
  formed.follow found

end Value

/-! ## Symmetry -/

theorem Double.equal_comm (x y : Double) : x.equal y = y.equal x := by
  exact Bool.beq_comm

theorem Number.same_comm (left right : Number) : left.same right = right.same left := by
  cases left with
  | whole value =>
      cases right with
      | whole other => exact Bool.beq_comm
      | double => rfl
  | double value =>
      cases right with
      | whole => rfl
      | double other => exact Double.equal_comm value other

namespace Value

/-- The keys of the second object are those of the first, if every key of the first
has a counterpart and there are not more of them. -/
theorem mem_keys_of_same {first second : Document} (unique : first.UniqueKeys)
    (sameLength : first.length = second.length)
    (counterparts : ∀ entry ∈ first, ∃ other, second.get? entry.1 = some other)
    {key : String} (member : key ∈ second.keys) : key ∈ first.keys := by
  have contained : first.keys ⊆ second.keys := by
    intro name inFirst
    obtain ⟨entry, entryMember, rfl⟩ := List.mem_map.mp inFirst
    obtain ⟨other, found⟩ := counterparts entry entryMember
    exact List.mem_map.mpr ⟨_, Document.mem_of_get? found, rfl⟩
  have permuted : first.keys.Perm second.keys := by
    apply (List.subperm_of_subset unique contained).perm_of_length_le
    simp [Document.keys, sameLength]
  exact permuted.symm.subset member

mutual

theorem same_of_same (left right : Value) (leftFormed : left.WellFormed)
    (rightFormed : right.WellFormed) (sameContent : left.same right = true) :
    right.same left = true := by
  match left with
  | .null => cases right <;> simp_all [same]
  | .bool truth => cases right <;> simp_all [same]
  | .number numeral =>
      cases right with
      | number other =>
          rw [same] at sameContent ⊢
          rwa [Number.same_comm]
      | _ => simp [same] at sameContent
  | .string text => cases right <;> simp_all [same]
  | .array items =>
      cases right with
      | array others =>
          rw [same] at sameContent ⊢
          exact sameItems_of_sameItems items others leftFormed rightFormed sameContent
      | _ => simp [same] at sameContent
  | .object entries =>
      cases right with
      | object others =>
          rw [same, Bool.and_eq_true, beq_iff_eq] at sameContent
          obtain ⟨sameLength, sameHeld⟩ := sameContent
          have counterparts := counterparts_of_sameEntries entries others leftFormed.2
            (fun _ _ => rightFormed.get?) sameHeld
          rw [same, Bool.and_eq_true, beq_iff_eq]
          refine ⟨sameLength.symm, ?_⟩
          apply sameEntries_of_counterparts
          intro entry member
          have isKey : entry.1 ∈ Document.keys entries := by
            apply mem_keys_of_same leftFormed.1 sameLength
            · intro first firstMember
              obtain ⟨other, found, _⟩ := counterparts first firstMember
              exact ⟨other, found⟩
            · exact List.mem_map_of_mem member
          obtain ⟨⟨key, value⟩, valueMember, sameKey⟩ := List.mem_map.mp isKey
          obtain ⟨other, found, held⟩ := counterparts (key, value) valueMember
          have entryFound : Document.get? others entry.1 = some entry.2 :=
            Document.get?_of_mem rightFormed.1 member
          rw [← sameKey] at entryFound ⊢
          obtain rfl := Option.some.inj (entryFound.symm.trans found)
          exact ⟨value, Document.get?_of_mem leftFormed.1 valueMember, held⟩
      | _ => simp [same] at sameContent

theorem sameItems_of_sameItems (left right : List Value) (leftFormed : WellFormedItems left)
    (rightFormed : WellFormedItems right) (sameContent : sameItems left right = true) :
    sameItems right left = true := by
  match left, right with
  | [], [] => rfl
  | [], _ :: _ => simp [sameItems] at sameContent
  | _ :: _, [] => simp [sameItems] at sameContent
  | item :: rest, other :: otherRest =>
      rw [sameItems, Bool.and_eq_true] at sameContent ⊢
      exact ⟨same_of_same item other leftFormed.1 rightFormed.1 sameContent.1,
        sameItems_of_sameItems rest otherRest leftFormed.2 rightFormed.2 sameContent.2⟩

theorem counterparts_of_sameEntries (entries others : List (String × Value))
    (formed : WellFormedEntries entries)
    (othersFormed : ∀ key value, Document.get? others key = some value → value.WellFormed)
    (sameContent : sameEntries entries others = true) :
    ∀ entry ∈ entries,
      ∃ other, Document.get? others entry.1 = some other ∧ other.same entry.2 = true := by
  match entries with
  | [] => simp
  | (key, value) :: rest =>
      rw [sameEntries, Bool.and_eq_true] at sameContent
      have held := sameContent.1
      split at held
      · rename_i other found
        rw [List.forall_mem_cons]
        refine ⟨⟨other, found, ?_⟩, ?_⟩
        · exact same_of_same value other formed.1 (othersFormed key other found) held
        · exact counterparts_of_sameEntries rest others formed.2 othersFormed sameContent.2
      · simp at held

theorem sameEntries_of_counterparts {entries others : List (String × Value)}
    (counterparts : ∀ entry ∈ entries,
      ∃ other, Document.get? others entry.1 = some other ∧ entry.2.same other = true) :
    sameEntries entries others = true := by
  match entries with
  | [] => rfl
  | (key, value) :: rest =>
      rw [List.forall_mem_cons] at counterparts
      obtain ⟨⟨other, found, held⟩, restCounterparts⟩ := counterparts
      rw [Document.get?] at found
      rw [sameEntries, found, Bool.and_eq_true]
      exact ⟨held, sameEntries_of_counterparts restCounterparts⟩

end

/-- Loose equality of well-formed values is symmetric. -/
theorem equal_symm {left right : Value} (leftFormed : left.WellFormed)
    (rightFormed : right.WellFormed) (sameValue : left.equal right = true) :
    right.equal left = true := by
  cases left with
  | number numeral =>
      cases right with
      | number other =>
          rw [equal] at sameValue ⊢
          rw [Number.equal] at sameValue ⊢
          rwa [Double.equal_comm]
      | _ => simp [equal, same] at sameValue
  | _ =>
      have sameContent := same_of_same _ _ leftFormed rightFormed sameValue
      cases right <;> exact sameContent

end Value

/-! ## Transitivity -/

theorem Double.equal_trans {x y z : Double} (first : x.equal y = true)
    (second : y.equal z = true) : x.equal z = true := by
  rw [equal, beq_iff_eq] at first second ⊢
  exact first.trans second

theorem Number.same_trans {left middle right : Number} (first : left.same middle = true)
    (second : middle.same right = true) : left.same right = true := by
  cases left with
  | whole value =>
      cases middle with
      | whole other =>
          obtain rfl : value = other := beq_iff_eq.mp first
          exact second
      | double => cases first
  | double value =>
      cases middle with
      | whole => cases first
      | double other =>
          cases right with
          | whole => cases second
          | double last => exact Double.equal_trans first second

namespace Value

theorem exists_of_sameEntries {entries others : List (String × Value)}
    (sameContent : sameEntries entries others = true) :
    ∀ entry ∈ entries,
      ∃ other, Document.get? others entry.1 = some other ∧ entry.2.same other = true := by
  induction entries with
  | nil => simp
  | cons entry rest inductionHypothesis =>
      rcases entry with ⟨key, value⟩
      rw [sameEntries, Bool.and_eq_true] at sameContent
      obtain ⟨held, restHeld⟩ := sameContent
      rw [List.forall_mem_cons]
      refine ⟨?_, inductionHypothesis restHeld⟩
      split at held
      · rename_i other found
        exact ⟨other, found, held⟩
      · simp at held

mutual

theorem same_trans (left middle right : Value) (first : left.same middle = true)
    (second : middle.same right = true) : left.same right = true := by
  match left with
  | .null =>
      cases middle with
      | null => exact second
      | _ => simp [same] at first
  | .bool truth =>
      cases middle with
      | bool other =>
          obtain rfl : truth = other := by simpa [same] using first
          exact second
      | _ => simp [same] at first
  | .string text =>
      cases middle with
      | string other =>
          obtain rfl : text = other := by simpa [same] using first
          exact second
      | _ => simp [same] at first
  | .number numeral =>
      cases middle with
      | number other =>
          cases right with
          | number last =>
              rw [same] at first second ⊢
              exact Number.same_trans first second
          | _ => simp [same] at second
      | _ => simp [same] at first
  | .array items =>
      cases middle with
      | array others =>
          cases right with
          | array lasts =>
              rw [same] at first second ⊢
              exact sameItems_trans items others lasts first second
          | _ => simp [same] at second
      | _ => simp [same] at first
  | .object entries =>
      cases middle with
      | object others =>
          cases right with
          | object lasts =>
              rw [same, Bool.and_eq_true, beq_iff_eq] at first second ⊢
              exact ⟨first.1.trans second.1,
                sameEntries_trans entries others lasts first.2 second.2⟩
          | _ => simp [same] at second
      | _ => simp [same] at first

theorem sameItems_trans (left middle right : List Value) (first : sameItems left middle = true)
    (second : sameItems middle right = true) : sameItems left right = true := by
  match left, middle, right with
  | [], [], _ => exact second
  | [], _ :: _, _ => simp [sameItems] at first
  | _ :: _, [], _ => simp [sameItems] at first
  | _ :: _, _ :: _, [] => simp [sameItems] at second
  | item :: rest, other :: otherRest, last :: lastRest =>
      rw [sameItems, Bool.and_eq_true] at first second ⊢
      exact ⟨same_trans item other last first.1 second.1,
        sameItems_trans rest otherRest lastRest first.2 second.2⟩

theorem sameEntries_trans (left middle right : List (String × Value))
    (first : sameEntries left middle = true) (second : sameEntries middle right = true) :
    sameEntries left right = true := by
  match left with
  | [] => rfl
  | (key, value) :: rest =>
      rw [sameEntries, Bool.and_eq_true] at first ⊢
      obtain ⟨held, restHeld⟩ := first
      refine ⟨?_, sameEntries_trans rest middle right restHeld second⟩
      split at held
      · rename_i other found
        obtain ⟨last, lastFound, lastHeld⟩ :=
          exists_of_sameEntries second (key, other) (Document.mem_of_get? found)
        rw [Document.get?] at lastFound
        rw [lastFound]
        exact same_trans value other last held lastHeld
      · simp at held

end

/-- Loose equality is transitive. -/
theorem equal_trans {left middle right : Value} (first : left.equal middle = true)
    (second : middle.equal right = true) : left.equal right = true := by
  cases left with
  | number numeral =>
      cases middle with
      | number other =>
          cases right with
          | number last =>
              rw [equal, Number.equal] at first second ⊢
              exact Double.equal_trans first second
          | _ => simp [equal, same] at second
      | _ => simp [equal, same] at first
  | _ =>
      have lastSame : middle.same right = true := by
        cases middle <;> first | exact second | simp [equal, same] at first
      cases right <;> exact same_trans _ _ _ first lastSame

end Value

/-! ## Truth -/

/-- A positive whole number of ones is at least the least normal double. -/
theorem Double.nearestUnits_pos {value exponent : Nat} (positive : 0 < value)
    (normal : 52 < exponent) : 0 < nearestUnits (value * twoTo exponent) 1 := by
  have large : exponent ≤ (value * twoTo exponent).log2 := by
    rw [Nat.le_log2 (Nat.mul_ne_zero (by omega) (by have := twoTo_pos exponent; omega))]
    exact Nat.le_mul_of_pos_left _ positive
  have binade : 1 ≤ (value * twoTo exponent / 1).log2 - 52 := by
    rw [Nat.div_one]
    omega
  have shifted : 1 * fractionCount ≤
      ((value * twoTo exponent / 1).log2 - 52) * fractionCount :=
    Nat.mul_le_mul_right _ binade
  unfold nearestUnits
  simp only [fractionCount] at shifted ⊢
  omega

theorem Double.isZero_ofInt (value : Int) : (ofInt value).isZero = (value == 0) := by
  by_cases zero : value = 0
  · subst zero
    decide +kernel
  · have positive : 0 < nearestUnits (value.natAbs * unitsPerOne) 1 :=
      nearestUnits_pos (by omega) (by decide)
    have magnitudePositive : 0 < (ofInt value).magnitude := by
      simp only [ofInt, ofQuotient?]
      split
      · exact positive
      · exact (by decide : 0 < magnitudeLimit - 1)
    have nonzero : (value == 0) = false := by simpa using zero
    rw [nonzero, isZero, beq_eq_false_iff_ne]
    omega

theorem Number.isZero_toDouble (number : Number) : number.toDouble.isZero = number.isZero := by
  cases number with
  | whole whole => exact Double.isZero_ofInt whole.value
  | double => rfl

theorem Double.isZero_eq_of_equal {x y : Double} (sameValue : x.equal y = true) :
    x.isZero = y.isZero := by
  have sameKey : x.key = y.key := by simpa [equal] using sameValue
  rw [isZero, isZero, magnitude_eq_of_key_eq sameKey]

theorem Number.isZero_eq_of_equal {left right : Number} (sameValue : left.equal right = true) :
    left.isZero = right.isZero := by
  rw [← isZero_toDouble left, ← isZero_toDouble right]
  exact Double.isZero_eq_of_equal sameValue

/-- Loosely equal values are true or false together. -/
theorem Value.truthy_eq_of_equal {left right : Value} (sameValue : left.equal right = true) :
    left.truthy = right.truthy := by
  cases left with
  | number numeral =>
      cases right with
      | number other => simp [truthy, Number.isZero_eq_of_equal sameValue]
      | _ => simp [equal, same] at sameValue
  | _ => cases right <;> simp_all [equal, same, truthy]

end RecordGraph
