import RecordGraph.Proofs.CompactText

/-!
# First appearances

Values that repeat earlier ones are left out by comparing their compact texts, before or after
others are left out for what they are.  Either way every value that remains stands for the place
where it first appeared, and two values are the same just if nothing tells them apart, neither
the form of a number nor the order of keys.
-/

namespace RecordGraph

section FirstAppearances

variable {α : Type} {items distinct : List α} {item later : α}

/-- An item appears among some items before another one does for the first time. -/
def AppearsBefore (items : List α) (item later : α) : Prop :=
  ∃ before after, items = before ++ item :: after ∧ later ∉ before

/-- The items without repeats, in the order in which they first appear. -/
structure FirstAppearances (items distinct : List α) : Prop where
  nodup : distinct.Nodup
  mem_iff : ∀ item, item ∈ distinct ↔ item ∈ items
  ordered : distinct.Pairwise (AppearsBefore items)

theorem appearsBefore_cons_self (item later : α) (rest : List α) :
    AppearsBefore (item :: rest) item later :=
  ⟨[], rest, rfl, List.not_mem_nil⟩

theorem AppearsBefore.cons (appears : AppearsBefore items item later) {first : α}
    (different : later ≠ first) : AppearsBefore (first :: items) item later := by
  rcases appears with ⟨before, after, rfl, absent⟩
  refine ⟨first :: before, after, rfl, ?_⟩
  rw [List.mem_cons, not_or]
  exact ⟨different, absent⟩

theorem AppearsBefore.filter (appears : AppearsBefore items item later) {kept : α → Bool}
    (isKept : kept item = true) : AppearsBefore (items.filter kept) item later := by
  rcases appears with ⟨before, after, rfl, absent⟩
  refine ⟨before.filter kept, after.filter kept, ?_, ?_⟩
  · rw [List.filter_append, List.filter_cons_of_pos isKept]
  · exact fun member => absent (List.mem_of_mem_filter member)

theorem AppearsBefore.antisymm (appears : AppearsBefore items item later)
    (opposite : AppearsBefore items later item) : item = later := by
  rcases appears with ⟨before, after, split, absent⟩
  rcases opposite with ⟨otherBefore, otherAfter, otherSplit, otherAbsent⟩
  rcases List.append_eq_append_iff.mp (split.symm.trans otherSplit) with
    ⟨between, isBefore, same⟩ | ⟨between, isBefore, same⟩
  · cases between with
    | nil => exact (List.cons.inj same).1
    | cons first rest =>
        rw [isBefore, (List.cons.inj same).1] at otherAbsent
        exact absurd (List.mem_append_right _ List.mem_cons_self) otherAbsent
  · cases between with
    | nil => exact (List.cons.inj same).1.symm
    | cons first rest =>
        rw [isBefore, (List.cons.inj same).1] at absent
        exact absurd (List.mem_append_right _ List.mem_cons_self) absent

/-- The first appearances of some items are determined by the items. -/
theorem FirstAppearances.unique {other : List α} (appearances : FirstAppearances items distinct)
    (others : FirstAppearances items other) : distinct = other := by
  have sameMembers : distinct.Perm other := by
    rw [List.perm_ext_iff_of_nodup appearances.nodup others.nodup]
    intro item
    rw [appearances.mem_iff, others.mem_iff]
  apply sameMembers.eq_of_pairwise _ appearances.ordered others.ordered
  intro item later _ _ appears opposite
  exact appears.antisymm opposite

/-- What is left out for what it is may be left out before or after the repeats. -/
theorem FirstAppearances.filter (appearances : FirstAppearances items distinct)
    (kept : α → Bool) : FirstAppearances (items.filter kept) (distinct.filter kept) := by
  constructor
  case nodup => exact appearances.nodup.filter kept
  case mem_iff =>
    intro item
    rw [List.mem_filter, List.mem_filter, appearances.mem_iff]
  case ordered =>
    rw [List.pairwise_filter]
    apply appearances.ordered.imp
    intro item later appears isKept _
    exact appears.filter isKept

/-- Items without repeats are their own first appearances. -/
theorem FirstAppearances.of_nodup (nodup : items.Nodup) : FirstAppearances items items where
  nodup := nodup
  mem_iff := fun _ => Iff.rfl
  ordered := by
    induction items with
    | nil => exact List.Pairwise.nil
    | cons first rest inductionHypothesis =>
        obtain ⟨fresh, restNodup⟩ := List.nodup_cons.mp nodup
        rw [List.pairwise_cons]
        refine ⟨fun later _ => appearsBefore_cons_self first later rest, ?_⟩
        apply (inductionHypothesis restNodup).imp_of_mem
        intro item later _ laterMember appears
        apply appears.cons
        rintro rfl
        exact fresh laterMember

section Places

variable [DecidableEq α]

theorem AppearsBefore.idxOf_lt (appears : AppearsBefore items item later)
    (different : item ≠ later) : items.idxOf item < items.idxOf later := by
  rcases appears with ⟨before, after, rfl, absent⟩
  have itemPlace : (before ++ item :: after).idxOf item ≤ before.length := by
    rw [List.idxOf_append]
    split
    · exact List.idxOf_le_length
    · rw [List.idxOf_cons_self, Nat.zero_add]
  have laterPlace : (before ++ item :: after).idxOf later =
      (after.idxOf later).succ + before.length := by
    rw [List.idxOf_append_of_notMem absent, List.idxOf_cons_ne _ different, Nat.add_comm]
  omega

/-- First appearances stand in the order of the places where the items are first found. -/
theorem FirstAppearances.pairwise_idxOf (appearances : FirstAppearances items distinct) :
    (distinct.map items.idxOf).Pairwise (· < ·) := by
  rw [List.pairwise_map]
  apply (appearances.ordered.and appearances.nodup).imp
  intro item later ⟨appears, different⟩
  exact appears.idxOf_lt different

end Places

end FirstAppearances

namespace Value

theorem not_mem_of_mem_uniqueFrom {values seen : List Value} {value : Value}
    (member : value ∈ uniqueFrom (seen.map compact) values) : value ∉ seen :=
  ((mem_uniqueFrom_iff values seen value).mp member).2

/-- Only the first of equal values is kept. -/
theorem nodup_uniqueFrom (values seen : List Value) :
    (uniqueFrom (seen.map compact) values).Nodup := by
  induction values generalizing seen with
  | nil => exact List.nodup_nil
  | cons first rest inductionHypothesis =>
      rw [uniqueFrom]
      split
      · exact inductionHypothesis seen
      · rw [← List.map_cons, List.nodup_cons]
        refine ⟨?_, inductionHypothesis (first :: seen)⟩
        exact fun member => not_mem_of_mem_uniqueFrom member List.mem_cons_self

theorem pairwise_uniqueFrom (values seen : List Value) :
    (uniqueFrom (seen.map compact) values).Pairwise (AppearsBefore values) := by
  induction values generalizing seen with
  | nil => exact List.Pairwise.nil
  | cons first rest inductionHypothesis =>
      rw [uniqueFrom]
      split
      · -- A repeat is no appearance of anything that is kept.
        rename_i repeats
        rcases List.mem_map.mp repeats with ⟨earlier, earlierSeen, sameText⟩
        have firstSeen : first ∈ seen := compact_injective sameText ▸ earlierSeen
        apply (inductionHypothesis seen).imp_of_mem
        intro item later _ laterKept appears
        apply appears.cons
        rintro rfl
        exact not_mem_of_mem_uniqueFrom laterKept firstSeen
      · rw [← List.map_cons, List.pairwise_cons]
        refine ⟨fun later _ => appearsBefore_cons_self first later rest, ?_⟩
        apply (inductionHypothesis (first :: seen)).imp_of_mem
        intro item later _ laterKept appears
        apply appears.cons
        rintro rfl
        exact not_mem_of_mem_uniqueFrom laterKept List.mem_cons_self

theorem firstAppearances_unique (values : List Value) :
    FirstAppearances values (unique values) where
  nodup := nodup_uniqueFrom values []
  mem_iff := mem_unique_iff values
  ordered := pairwise_uniqueFrom values []

theorem uniqueFrom_sublist (values : List Value) (seen : List String) :
    (uniqueFrom seen values).Sublist values := by
  induction values generalizing seen with
  | nil => exact List.Sublist.refl []
  | cons first rest inductionHypothesis =>
      rw [uniqueFrom]
      split
      · exact (inductionHypothesis seen).cons first
      · exact (inductionHypothesis (first.compact :: seen)).cons_cons first

/-- Values without repeats are all kept. -/
theorem unique_eq_self_of_nodup {values : List Value} (nodup : values.Nodup) :
    unique values = values :=
  (firstAppearances_unique values).unique (.of_nodup nodup)

/-- Repeats are dropped and nothing else: the values that are kept stand, each once, where they
are first found.  No other value is taken for a repeat, since no two values have one text. -/
theorem unique_drops_repeats (values : List Value) :
    (unique values).Sublist values ∧
      (∀ value, value ∈ unique values ↔ value ∈ values) ∧
      (unique values).Nodup ∧
      ((unique values).map values.idxOf).Pairwise (· < ·) ∧
      unique (unique values) = unique values ∧
      ∀ first second : Value, first.compact = second.compact ↔ first = second := by
  have appearances := firstAppearances_unique values
  refine ⟨uniqueFrom_sublist values [], appearances.mem_iff, appearances.nodup,
    appearances.pairwise_idxOf, unique_eq_self_of_nodup appearances.nodup, ?_⟩
  intro first second
  constructor
  · exact compact_injective
  · exact congrArg compact

-- Both zeros, and both orders of keys, are kept.
example :
    unique
        [.number (.double .zero), .number (.double (Double.zero.withSign true)),
          .object [("a", .null), ("b", .null)], .number (.double .zero),
          .object [("b", .null), ("a", .null)]] =
      [.number (.double .zero), .number (.double (Double.zero.withSign true)),
        .object [("a", .null), ("b", .null)], .object [("b", .null), ("a", .null)]] := by
  decide

end Value

end RecordGraph
