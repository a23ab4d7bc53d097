import RecordGraph.Store

/-!
# Sorted reads

A list of records is read by filtering, stable sorting, cutting and projecting.  What records are
sorted by orders them totally up to ties, so that exactly one list is a stable sort of the
records that match; the answer is a part of this list.
-/

namespace RecordGraph

/-! ## The order of values -/

namespace Value

def numberKey : Option Value → Int
  | some (.number held) => held.toDouble.key
  | _ => 0

def textKey : Option Value → String
  | some (.string text) => text
  | _ => ""

def truthKey : Option Value → Bool
  | some (.bool truth) => truth
  | _ => false

variable {left right : Option Value}

theorem sortOrder_of_rank_ne (differ : rank left ≠ rank right) :
    sortOrder left right = Ord.compare (rank left) (rank right) := by
  rcases left with _ | left
  · rfl
  · rcases right with _ | right
    · rfl
    · cases left <;> cases right <;> first | rfl | exact absurd rfl differ

theorem sortOrder_of_rank_eq (sameRank : rank left = rank right) :
    sortOrder left right = compareLex (compareOn numberKey)
      (compareLex (compareOn textKey) (compareOn truthKey)) left right := by
  rcases left with _ | left
  · rcases right with _ | right
    · simp [sortOrder, compareLex, compareOn, numberKey, textKey, truthKey]
    · cases right <;> simp [rank] at sameRank
      simp [sortOrder, rank, compareLex, compareOn, numberKey, textKey, truthKey]
  · rcases right with _ | right
    · cases left <;> simp [rank] at sameRank
      simp [sortOrder, rank, compareLex, compareOn, numberKey, textKey, truthKey]
    · cases left <;> cases right <;> simp [rank] at sameRank <;>
        simp [sortOrder, compare?, rank, compareLex, compareOn, numberKey, textKey, truthKey,
          Number.compare, Double.compare]

/-- Values are ordered by their ranks, and those of one rank by what they hold. -/
theorem sortOrder_eq :
    sortOrder = compareLex (compareOn rank)
      (compareLex (compareOn numberKey) (compareLex (compareOn textKey) (compareOn truthKey))) := by
  funext left right
  by_cases sameRank : rank left = rank right
  · have tied : compareOn rank left right = .eq := Nat.compare_eq_eq.mpr sameRank
    rw [sortOrder_of_rank_eq sameRank, compareLex.eq_def (compareOn rank), tied,
      Ordering.eq_then]
  · rw [sortOrder_of_rank_ne sameRank, compareLex.eq_def (compareOn rank), compareOn.eq_def rank]
    cases compared : Ord.compare (rank left) (rank right) with
    | eq => exact absurd (Nat.compare_eq_eq.mp compared) sameRank
    | _ => rfl

instance : Std.TransCmp sortOrder := by
  rw [sortOrder_eq]
  infer_instance

end Value

/-! ## The order of records -/

theorem transCmp_on {α β : Type} (order : β → β → Ordering) [Std.TransCmp order] (key : α → β) :
    Std.TransCmp fun left right => order (key left) (key right) where
  eq_swap := Std.OrientedCmp.eq_swap
  isLE_trans := Std.TransCmp.isLE_trans

instance (key : String × SortDirection) : Std.TransCmp (orderByKey key) := by
  obtain ⟨field, direction⟩ := key
  have ascending : Std.TransCmp (orderByKey (field, .ascending)) :=
    transCmp_on Value.sortOrder fun record : Document => record.read? field
  cases direction with
  | ascending => exact ascending
  | descending =>
      have reversed : orderByKey (field, .descending) = fun left right =>
          orderByKey (field, .ascending) right left := by
        funext left right
        exact Std.OrientedCmp.eq_swap.symm
      rw [reversed]
      exact Std.TransCmp.opposite

instance (keys : List (String × SortDirection)) : Std.TransCmp (orderByKeys keys) := by
  induction keys with
  | nil => exact { eq_swap := rfl, isLE_trans := fun _ _ => rfl }
  | cons key rest inductionHypothesis =>
      exact inferInstanceAs (Std.TransCmp (compareLex (orderByKey key) (orderByKeys rest)))

/-! ## Stable sorting -/

section StableSort

variable {α : Type} {order : α → α → Ordering} {items sorted other : List α}

/-- The items that compare equal to a given one. -/
def tiedWith (order : α → α → Ordering) (item : α) (items : List α) : List α :=
  items.filter fun tied => order item tied == .eq

/-- A list with the same items in non-decreasing order, which keeps those that compare equal in
the order in which they were. -/
structure IsStableSort (order : α → α → Ordering) (items sorted : List α) : Prop where
  perm : sorted.Perm items
  nondecreasing : sorted.Pairwise fun left right => (order left right).isLE = true
  stable : ∀ item, tiedWith order item sorted = tiedWith order item items

theorem mem_tiedWith_iff (item tied : α) :
    tied ∈ tiedWith order item items ↔ tied ∈ items ∧ order item tied = .eq := by
  rw [tiedWith, List.mem_filter, beq_iff_eq]

variable [Std.TransCmp order]

theorem subset_of_tiedWith_eq
    (sameTies : ∀ item, tiedWith order item sorted = tiedWith order item other) :
    sorted ⊆ other := by
  intro item member
  have tied : order item item = .eq := Std.ReflCmp.compare_self
  have inTies := (mem_tiedWith_iff item item).mpr ⟨member, tied⟩
  rw [sameTies] at inTies
  exact ((mem_tiedWith_iff item item).mp inTies).1

theorem head_isLE {first item : α} {rest : List α}
    (inOrder : (first :: rest).Pairwise fun left right => (order left right).isLE = true)
    (member : item ∈ first :: rest) : (order first item).isLE = true := by
  rcases List.mem_cons.mp member with isFirst | inRest
  · rw [isFirst]
    exact Ordering.isLE_of_eq_eq Std.ReflCmp.compare_self
  · exact (List.pairwise_cons.mp inOrder).1 item inRest

/-- Lists in order with the same ties are the same, since the first of one ties with the first of
the other. -/
theorem eq_of_tiedWith_eq
    (sortedInOrder : sorted.Pairwise fun left right => (order left right).isLE = true)
    (otherInOrder : other.Pairwise fun left right => (order left right).isLE = true)
    (sameTies : ∀ item, tiedWith order item sorted = tiedWith order item other) :
    sorted = other := by
  induction sorted generalizing other with
  | nil =>
      exact (List.eq_nil_of_subset_nil
        (subset_of_tiedWith_eq fun item => (sameTies item).symm)).symm
  | cons first rest inductionHypothesis =>
      cases other with
      | nil => exact List.eq_nil_of_subset_nil (subset_of_tiedWith_eq sameTies)
      | cons otherFirst otherRest =>
          have inOther := subset_of_tiedWith_eq sameTies List.mem_cons_self
          have inSorted := subset_of_tiedWith_eq (fun item => (sameTies item).symm)
            List.mem_cons_self
          have tied : order first otherFirst = .eq := Std.OrientedCmp.isLE_antisymm
            (head_isLE sortedInOrder inSorted) (head_isLE otherInOrder inOther)
          have firstTies := sameTies first
          simp only [tiedWith, List.filter_cons, Std.ReflCmp.compare_self, tied, BEq.rfl, if_true,
            List.cons.injEq] at firstTies
          obtain ⟨rfl, _⟩ := firstTies
          congr 1
          apply inductionHypothesis sortedInOrder.tail otherInOrder.tail
          intro item
          have ties := sameTies item
          simp only [tiedWith, List.filter_cons] at ties ⊢
          split at ties
          · exact (List.cons.inj ties).2
          · exact ties

/-- A list has one stable sort. -/
theorem IsStableSort.unique (isSort : IsStableSort order items sorted)
    (otherIsSort : IsStableSort order items other) : sorted = other :=
  eq_of_tiedWith_eq isSort.nondecreasing otherIsSort.nondecreasing
    fun item => (isSort.stable item).trans (otherIsSort.stable item).symm

end StableSort

/-! ## Reads of a list -/

end RecordGraph
