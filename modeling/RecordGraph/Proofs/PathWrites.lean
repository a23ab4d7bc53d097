import RecordGraph.Resolve.Task

/-!
# What a write leaves alone

Writing at a path touches one entry of a document, the one that the first segment
of the path names.
-/

namespace RecordGraph

/-- Two paths go apart at their first segments. -/
def PathsPart (first second : String) : Prop :=
  (segments first).head? ≠ (segments second).head?

instance (first second : String) : Decidable (PathsPart first second) :=
  inferInstanceAs (Decidable ((segments first).head? ≠ (segments second).head?))

def firstSegment (path : String) : String := (segments path).head (segments_ne_nil path)

theorem segments_eq_cons (path : String) :
    segments path = firstSegment path :: (segments path).tail :=
  (List.cons_head_tail (segments_ne_nil path)).symm

theorem pathsPart_iff (first second : String) :
    PathsPart first second ↔ firstSegment first ≠ firstSegment second := by
  rw [PathsPart, segments_eq_cons first, segments_eq_cons second, List.head?_cons, List.head?_cons]
  exact not_congr Option.some_inj

namespace Document

/-! ## The entry that is written -/

/-- What a write leaves at the first segment of its path, given what is held there. -/
def deepened (held : Option Value) : List String → Value → Value
  | [], value => value
  | next :: rest, value => .object (put ((held.bind Value.document?).getD []) (next :: rest) value)

theorem write_eq_set (document : Document) (path : String) (value : Value) :
    document.write path value = document.set (firstSegment path)
      (deepened (document.get? (firstSegment path)) (segments path).tail value) := by
  rw [write, segments_eq_cons path, List.tail_cons]
  cases (segments path).tail <;> rfl

theorem get?_write_of_ne {path key : String} (different : key ≠ firstSegment path)
    (document : Document) (value : Value) :
    (document.write path value).get? key = document.get? key := by
  rw [write_eq_set]
  exact get?_set_of_ne different document _

theorem keys_prefix_write (document : Document) (path : String) (value : Value) :
    document.keys <+: (document.write path value).keys := by
  rw [write_eq_set, keys_set]
  split
  · exact List.prefix_rfl
  · exact List.prefix_append _ _

/-! ## Reading after writing -/

theorem read?_eq_bind (document : Document) (path : String) :
    document.read? path =
      (document.get? (firstSegment path)).bind (·.follow (segments path).tail) := by
  rw [read?, segments_eq_cons path]
  rfl

/-- A field is read as before if the written path goes apart from it. -/
theorem read?_write {written read : String} (part : PathsPart written read)
    (document : Document) (value : Value) :
    (document.write written value).read? read = document.read? read := by
  have different := ((pathsPart_iff written read).mp part).symm
  rw [read?_eq_bind, read?_eq_bind, get?_write_of_ne different]

theorem follow_put_self (document : Document) {path : List String} (nonempty : path ≠ [])
    (value : Value) : (Value.object (document.put path value)).follow path = some value := by
  induction path generalizing document with
  | nil => exact absurd rfl nonempty
  | cons first rest inductionHypothesis =>
      have written : ∀ held, (document.set first held).lookup first = some held :=
        get?_set_self document first
      cases rest with
      | nil => simp only [put, Value.follow, Value.child?, written, Option.bind_some]
      | cons next rest =>
          have further := inductionHypothesis (document.child first) (List.cons_ne_nil next rest)
          rw [put, Value.follow, Value.child?, written]
          exact further

theorem read?_write_self (document : Document) (path : String) (value : Value) :
    (document.write path value).read? path = some value :=
  document.follow_put_self (segments_ne_nil path) value

/-! ## Writing again -/

theorem put_put (document : Document) (path : List String) (first second : Value) :
    (document.put path first).put path second = document.put path second := by
  induction path generalizing document with
  | nil => rfl
  | cons head rest inductionHypothesis =>
      cases rest with
      | nil => exact document.set_set head first second
      | cons next rest =>
          have child_set : ∀ entries,
              (document.set head (.object entries)).child head = entries := by
            intro entries
            rw [child, get?_set_self]
            rfl
          simp only [put, child_set, set_set, inductionHypothesis]

/-- The second of two values written at a path is the one that stays. -/
theorem write_write (document : Document) (path : String) (first second : Value) :
    (document.write path first).write path second = document.write path second :=
  document.put_put (segments path) first second

theorem set_eq_self_iff (document : Document) (key : String) (value : Value) :
    document.set key value = document ↔ document.get? key = some value := by
  induction document with
  | nil => simp [set]
  | cons entry rest inductionHypothesis =>
      obtain ⟨first, held⟩ := entry
      rw [set, get?_cons]
      by_cases sameKey : first = key
      · simp [sameKey, eq_comm]
      · rw [if_neg sameKey, if_neg (Ne.symm sameKey), List.cons.injEq, inductionHypothesis]
        exact and_iff_right rfl

/-- Whether a write changes anything depends on the entry of its first segment. -/
theorem write_eq_self_of_get?_eq {document other : Document} {path : String} {value : Value}
    (sameEntry : document.get? (firstSegment path) = other.get? (firstSegment path))
    (unchanged : other.write path value = other) : document.write path value = document := by
  rw [write_eq_set, set_eq_self_iff] at unchanged ⊢
  rw [sameEntry]
  exact unchanged

/-! ## Several writes -/

/-- Write values one after the other, each at its path. -/
def writeAll (document : Document) : List (String × Value) → Document
  | [] => document
  | (path, value) :: rest => (document.write path value).writeAll rest

variable {writes : List (String × Value)}

theorem get?_writeAll_of_ne {key : String}
    (different : ∀ entry ∈ writes, key ≠ firstSegment entry.1) (document : Document) :
    (document.writeAll writes).get? key = document.get? key := by
  induction writes generalizing document with
  | nil => rfl
  | cons entry rest inductionHypothesis =>
      obtain ⟨firstDiffers, restDiffer⟩ := List.forall_mem_cons.mp different
      rw [writeAll, inductionHypothesis restDiffer, get?_write_of_ne firstDiffers]

theorem keys_prefix_writeAll (document : Document) (writes : List (String × Value)) :
    document.keys <+: (document.writeAll writes).keys := by
  induction writes generalizing document with
  | nil => exact List.prefix_rfl
  | cons entry rest inductionHypothesis =>
      exact (document.keys_prefix_write entry.1 entry.2).trans (inductionHypothesis _)

theorem writeAll_eq_self {document : Document}
    (unchanged : ∀ entry ∈ writes, document.write entry.1 entry.2 = document) :
    document.writeAll writes = document := by
  induction writes with
  | nil => rfl
  | cons entry rest inductionHypothesis =>
      obtain ⟨firstUnchanged, restUnchanged⟩ := List.forall_mem_cons.mp unchanged
      rw [writeAll, firstUnchanged, inductionHypothesis restUnchanged]

/-- A write that changes nothing changes nothing later on, if other writes go apart from it. -/
theorem write_writeAll_of_write_eq_self {document : Document} {entry : String × Value}
    (unchanged : document.write entry.1 entry.2 = document)
    (parts : ∀ other ∈ writes, other = entry ∨ PathsPart other.1 entry.1) :
    (document.writeAll writes).write entry.1 entry.2 = document.writeAll writes := by
  induction writes generalizing document with
  | nil => exact unchanged
  | cons other rest inductionHypothesis =>
      obtain ⟨firstParts, restPart⟩ := List.forall_mem_cons.mp parts
      rw [writeAll]
      apply inductionHypothesis _ restPart
      rcases firstParts with isSame | part
      · rw [isSame, unchanged, unchanged]
      · have different := ((pathsPart_iff other.1 entry.1).mp part).symm
        exact write_eq_self_of_get?_eq (get?_write_of_ne different document other.2) unchanged

theorem write_writeAll_of_mem {entry : String × Value} (member : entry ∈ writes)
    (parts : ∀ other ∈ writes, other = entry ∨ PathsPart other.1 entry.1) (document : Document) :
    (document.writeAll writes).write entry.1 entry.2 = document.writeAll writes := by
  induction writes generalizing document with
  | nil => cases member
  | cons first rest inductionHypothesis =>
      obtain ⟨_, restPart⟩ := List.forall_mem_cons.mp parts
      rcases List.mem_cons.mp member with isFirst | inRest
      · rw [writeAll, ← isFirst]
        apply write_writeAll_of_write_eq_self _ restPart
        exact write_write document entry.1 entry.2 entry.2
      · exact inductionHypothesis inRest restPart (document.write first.1 first.2)

/-- Writing the same values again changes nothing. -/
theorem writeAll_writeAll
    (parts : ∀ first ∈ writes, ∀ second ∈ writes, first = second ∨ PathsPart first.1 second.1)
    (document : Document) :
    (document.writeAll writes).writeAll writes = document.writeAll writes := by
  apply writeAll_eq_self
  intro entry member
  apply write_writeAll_of_mem member
  intro other isOther
  exact parts other isOther entry member

end Document

theorem read?_attachOne {written read : String} (part : PathsPart written read)
    (owner : Document) (attachment : Option Value) :
    (attachOne written owner attachment).read? read = owner.read? read := by
  cases attachment with
  | none => rfl
  | some value => exact owner.read?_write part value

theorem read?_attachOne_self (field : String) (owner : Document) (attachment : Option Value) :
    (attachOne field owner attachment).read? field = attachment.or (owner.read? field) := by
  cases attachment with
  | none => rfl
  | some value => exact owner.read?_write_self field value

end RecordGraph
