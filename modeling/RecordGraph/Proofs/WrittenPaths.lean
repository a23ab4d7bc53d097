import RecordGraph.Proofs.PathWrites

/-!
# Reading at other paths after a write

A path is cut at its first dot: what stands before it names an entry, and what follows is a
path below that entry.  Writing and reading both follow these cuts.  A written value is read at
its path, a later write at the path takes its place, and a path that goes apart from it reads as
before.  The last needs objects on the way to the written value, since an object is put in the
place of everything else that stands there, and the items of an array can be read.
-/

namespace RecordGraph

/-! ## Cutting a path -/

/-- A text without dots is a path of one segment. -/
def IsSegment (name : String) : Prop := '.' ∉ name.toList

instance (name : String) : Decidable (IsSegment name) :=
  inferInstanceAs (Decidable ('.' ∉ name.toList))

section Segments

variable {name : String}

theorem IsSegment.keeps (isSegment : IsSegment name) :
    ∀ char ∈ name.toList, (char == '.') = false := by
  intro char member
  rw [beq_eq_false_iff_ne]
  rintro rfl
  exact isSegment member

theorem segments_of_isSegment (isSegment : IsSegment name) : segments name = [name] := by
  rw [segments, splitWhere_of_keeps isSegment.keeps, List.map_singleton, String.ofList_toList]

theorem segments_append_dot (isSegment : IsSegment name) (rest : String) :
    segments (name ++ "." ++ rest) = name :: segments rest := by
  have joined : (name ++ "." ++ rest).toList = name.toList ++ '.' :: rest.toList := by simp
  rw [segments, joined, splitWhere_append_cons isSegment.keeps rfl, List.map_cons,
    String.ofList_toList]
  rfl

theorem isSegment_or_cut (path : String) :
    IsSegment path ∨ ∃ name rest, IsSegment name ∧ path = name ++ "." ++ rest := by
  by_cases isSegment : IsSegment path
  · exact .inl isSegment
  · have member : '.' ∈ path.toList := Classical.not_not.mp isSegment
    obtain ⟨before, after, split, absent⟩ := List.eq_append_cons_of_mem member
    refine .inr ⟨String.ofList before, String.ofList after, ?_, ?_⟩
    · rwa [IsSegment, String.toList_ofList]
    · apply String.toList_injective
      simp [split]

/-- What holds of single segments, and of a path if it holds of what follows its first dot,
holds of every path. -/
@[elab_as_elim]
theorem path_induction {motive : String → Prop}
    (segment : ∀ name, IsSegment name → motive name)
    (below : ∀ name rest, IsSegment name → motive rest → motive (name ++ "." ++ rest))
    (path : String) : motive path := by
  rcases isSegment_or_cut path with isSegment | ⟨name, rest, isSegment, isCut⟩
  · exact segment path isSegment
  · rw [isCut]
    exact below name rest isSegment (path_induction segment below rest)
termination_by path.length
decreasing_by
  have dot : ".".length = 1 := rfl
  rw [isCut, String.length_append, String.length_append]
  omega

end Segments

namespace Document

section Cuts

variable {name : String}

/-- Below its first dot a path is written in the object that its first segment holds or gets. -/
theorem write_append_dot (isSegment : IsSegment name) (document : Document) (rest : String)
    (value : Value) :
    document.write (name ++ "." ++ rest) value =
      document.set name (.object ((document.child name).write rest value)) := by
  rw [write, write, segments_append_dot isSegment, segments_eq_cons rest, put]

theorem read?_of_isSegment (isSegment : IsSegment name) (document : Document) :
    document.read? name = document.get? name := by
  rw [read?, segments_of_isSegment isSegment]
  exact Option.bind_fun_some _

theorem read?_append_dot (isSegment : IsSegment name) (document : Document) (rest : String) :
    document.read? (name ++ "." ++ rest) =
      (document.get? name).bind (·.follow (segments rest)) := by
  rw [read?, segments_append_dot isSegment]
  rfl

end Cuts

end Document

/-! ## Paths that go apart -/

/-- Two paths go apart at some segment, so that neither is the way to the other. -/
def PathsDiverge (first second : String) : Prop :=
  ¬ segments first <+: segments second ∧ ¬ segments second <+: segments first

instance (first second : String) : Decidable (PathsDiverge first second) :=
  inferInstanceAs (Decidable (_ ∧ _))

section Diverging

variable {name rest other : String}

theorem pathsDiverge_append_dot_iff (isSegment : IsSegment name) :
    PathsDiverge (name ++ "." ++ rest) (name ++ "." ++ other) ↔ PathsDiverge rest other := by
  simp only [PathsDiverge, segments_append_dot isSegment, List.cons_prefix_cons, true_and]

/-- A path that goes apart from a single segment does so at its first one. -/
theorem PathsDiverge.part (isSegment : IsSegment name) (diverge : PathsDiverge name other) :
    PathsPart name other := by
  intro sameHead
  apply diverge.1
  rw [segments_of_isSegment isSegment] at sameHead ⊢
  rw [segments_eq_cons other] at sameHead ⊢
  rw [Option.some.inj sameHead]
  exact List.prefix_append [_] _

theorem PathsDiverge.symm (diverge : PathsDiverge rest other) : PathsDiverge other rest :=
  ⟨diverge.2, diverge.1⟩

theorem PathsPart.symm (part : PathsPart rest other) : PathsPart other rest :=
  Ne.symm part

/-- Two paths go apart at their first segments or below a segment that they share. -/
theorem PathsDiverge.part_or_below (isSegment : IsSegment name)
    (diverge : PathsDiverge (name ++ "." ++ rest) other) :
    PathsPart (name ++ "." ++ rest) other ∨
      ∃ below, other = name ++ "." ++ below ∧ PathsDiverge rest below := by
  rcases isSegment_or_cut other with otherSegment | ⟨first, below, firstIsSegment, rfl⟩
  · exact .inl (diverge.symm.part otherSegment).symm
  · by_cases sameFirst : first = name
    · subst sameFirst
      exact .inr ⟨below, rfl, (pathsDiverge_append_dot_iff isSegment).mp diverge⟩
    · left
      rw [PathsPart, segments_append_dot isSegment, segments_append_dot firstIsSegment]
      simpa using Ne.symm sameFirst

end Diverging

/-! ## Objects on the way -/

/-- A path begins another one: its segments are the first of the other's, but not all. -/
def PathBegins (before path : String) : Prop :=
  segments before <+: segments path ∧ segments before ≠ segments path

section Beginning

variable {name before rest : String}

theorem not_pathBegins_of_isSegment (isSegment : IsSegment name) : ¬ PathBegins before name := by
  rintro ⟨begins, different⟩
  rw [segments_of_isSegment isSegment] at begins different
  rcases List.prefix_cons_iff.mp begins with isEmpty | ⟨rest, isBefore, restBegins⟩
  · exact segments_ne_nil before isEmpty
  · rw [List.prefix_nil.mp restBegins] at isBefore
    exact different isBefore

theorem pathBegins_append_dot_iff (isSegment : IsSegment name) :
    PathBegins before (name ++ "." ++ rest) ↔
      before = name ∨ ∃ below, before = name ++ "." ++ below ∧ PathBegins below rest := by
  constructor
  · rintro ⟨begins, different⟩
    rw [segments_append_dot isSegment] at begins different
    rcases isSegment_or_cut before with beforeIsSegment | ⟨first, below, firstIsSegment, rfl⟩
    · rw [segments_of_isSegment beforeIsSegment] at begins
      exact .inl (List.cons_prefix_cons.mp begins).1
    · rw [segments_append_dot firstIsSegment] at begins different
      obtain ⟨rfl, belowBegins⟩ := List.cons_prefix_cons.mp begins
      refine .inr ⟨below, rfl, belowBegins, ?_⟩
      intro sameSegments
      exact different (by rw [sameSegments])
  · rintro (rfl | ⟨below, rfl, begins, different⟩)
    · rw [PathBegins, segments_of_isSegment isSegment, segments_append_dot isSegment]
      refine ⟨List.prefix_append [before] (segments rest), ?_⟩
      simpa using (segments_ne_nil rest).symm
    · rw [PathBegins, segments_append_dot isSegment, segments_append_dot isSegment,
        List.cons_prefix_cons]
      refine ⟨⟨rfl, begins⟩, ?_⟩
      simpa using different

end Beginning

namespace Document

/-- Whatever can be read at a path that begins the given one is an object. -/
def OpensAlong (document : Document) (path : String) : Prop :=
  ∀ before, PathBegins before path →
    ∀ held, document.read? before = some held → ∃ entries, held = .object entries

section Opening

variable {name : String}

theorem opensAlong_of_isSegment (isSegment : IsSegment name) (document : Document) :
    document.OpensAlong name :=
  fun _ begins => absurd begins (not_pathBegins_of_isSegment isSegment)

/-- There are objects along a path if its first segment holds nothing, or an object with
objects along what follows. -/
theorem opensAlong_append_dot_iff (isSegment : IsSegment name) (document : Document)
    (rest : String) :
    document.OpensAlong (name ++ "." ++ rest) ↔
      ∀ held, document.get? name = some held →
        ∃ entries, held = .object entries ∧ OpensAlong entries rest := by
  constructor
  · intro opens held found
    have nameBegins : PathBegins name (name ++ "." ++ rest) :=
      (pathBegins_append_dot_iff isSegment).mpr (.inl rfl)
    rw [← read?_of_isSegment isSegment] at found
    obtain ⟨entries, rfl⟩ := opens name nameBegins held found
    refine ⟨entries, rfl, ?_⟩
    intro below belowBegins inner innerFound
    apply opens (name ++ "." ++ below)
    · exact (pathBegins_append_dot_iff isSegment).mpr (.inr ⟨below, rfl, belowBegins⟩)
    · rw [read?_of_isSegment isSegment] at found
      rw [read?_append_dot isSegment, found]
      exact innerFound
  · intro opens before begins held found
    rcases (pathBegins_append_dot_iff isSegment).mp begins with rfl | ⟨below, rfl, belowBegins⟩
    · rw [read?_of_isSegment isSegment] at found
      obtain ⟨entries, isObject, _⟩ := opens held found
      exact ⟨entries, isObject⟩
    · rw [read?_append_dot isSegment, Option.bind_eq_some_iff] at found
      obtain ⟨outer, outerFound, innerFound⟩ := found
      obtain ⟨entries, rfl, opensBelow⟩ := opens outer outerFound
      exact opensBelow below belowBegins held innerFound

end Opening

/-! ## Reading elsewhere -/

theorem read?_nil (path : String) : read? [] path = none := by
  rw [read?_eq_bind, get?_nil]
  rfl

/-- A path that goes apart from the written one reads as before, if there are objects on the
way to the written value. -/
theorem read?_write_of_diverge {document : Document} {path other : String}
    (opens : document.OpensAlong path) (diverge : PathsDiverge path other) (value : Value) :
    (document.write path value).read? other = document.read? other := by
  induction path using path_induction generalizing document other with
  | segment name isSegment => exact read?_write (diverge.part isSegment) document value
  | below name rest isSegment inductionHypothesis =>
      rcases diverge.part_or_below isSegment with part | ⟨otherRest, rfl, divergeBelow⟩
      · exact read?_write part document value
      · rw [opensAlong_append_dot_iff isSegment] at opens
        rw [write_append_dot isSegment, read?_append_dot isSegment, read?_append_dot isSegment,
          get?_set_self, Option.bind_some]
        cases found : document.get? name with
        | none =>
            -- The object that is created holds nothing but what is written.
            have isNew : document.child name = [] := by rw [child, found]; rfl
            have opensNew : OpensAlong [] rest := by
              intro before _ held heldFound
              rw [read?_nil] at heldFound
              cases heldFound
            have keeps := inductionHypothesis opensNew divergeBelow
            rw [isNew]
            exact keeps.trans (read?_nil otherRest)
        | some held =>
            obtain ⟨entries, rfl, opensBelow⟩ := opens held found
            have isHeld : document.child name = entries := by rw [child, found]; rfl
            rw [isHeld]
            exact inductionHypothesis opensBelow divergeBelow

/-- A written value is read at its path until the next write there, which leaves nothing of it,
and with objects on the way nothing else is read differently. -/
theorem writing_changes_one_path (document : Document) (path : String) (value : Value) :
    (document.write path value).read? path = some value ∧
      (∀ later, (document.write path value).write path later = document.write path later) ∧
      (document.OpensAlong path → ∀ other, PathsDiverge path other →
        (document.write path value).read? other = document.read? other) := by
  refine ⟨document.read?_write_self path value, document.write_write path value, ?_⟩
  intro opens other diverge
  exact read?_write_of_diverge opens diverge value

-- An array on the way is put away with all its items.
example : read? [("tags", .array [.string "new"])] "tags.0" = some (.string "new") ∧
    (write [("tags", .array [.string "new"])] "tags.main" .null).read? "tags.0" = none := by
  decide

end Document

/-! ## A record with an address -/

/-- Somebody with some tags and an address. -/
def addressed : Document :=
  [("name", .string "Alice"),
    ("profile", .object
      [("tags", .array [.string "new", .string "old"]),
        ("address", .object [("city", .string "Oslo")])])]

theorem addressed_opensAlong : addressed.OpensAlong "profile.address.city" := by
  have below : "profile.address.city" = "profile" ++ "." ++ ("address" ++ "." ++ "city") := by
    decide
  rw [below, Document.opensAlong_append_dot_iff (by decide)]
  intro held found
  obtain rfl := Option.some.inj found
  refine ⟨_, rfl, ?_⟩
  rw [Document.opensAlong_append_dot_iff (by decide)]
  intro inner innerFound
  obtain rfl := Option.some.inj innerFound
  exact ⟨_, rfl, Document.opensAlong_of_isSegment (by decide) _⟩

/-- With another city the tags are still there and the code of the city is still missing, and
moving on leaves nothing of the move before. -/
theorem writing_changes_one_path_addressed :
    addressed.OpensAlong "profile.address.city" ∧
      PathsDiverge "profile.address.city" "profile.tags.1" ∧
      PathsDiverge "profile.address.city" "profile.address.code" ∧
      (addressed.write "profile.address.city" (.string "Bergen")).read? "profile.address.city" =
        some (.string "Bergen") ∧
      (addressed.write "profile.address.city" (.string "Bergen")).write "profile.address.city"
        (.string "Bodø") = addressed.write "profile.address.city" (.string "Bodø") ∧
      (addressed.write "profile.address.city" (.string "Bergen")).read? "profile.tags.1" =
        some (.string "old") ∧
      (addressed.write "profile.address.city" (.string "Bergen")).read? "profile.address.code" =
        none := by
  have fromTags : PathsDiverge "profile.address.city" "profile.tags.1" := by decide
  have fromCode : PathsDiverge "profile.address.city" "profile.address.code" := by decide
  obtain ⟨written, again, elsewhere⟩ :=
    addressed.writing_changes_one_path "profile.address.city" (.string "Bergen")
  refine ⟨addressed_opensAlong, fromTags, fromCode, written, again (.string "Bodø"), ?_, ?_⟩
  · rw [elsewhere addressed_opensAlong _ fromTags]
    decide
  · rw [elsewhere addressed_opensAlong _ fromCode]
    decide

end RecordGraph
