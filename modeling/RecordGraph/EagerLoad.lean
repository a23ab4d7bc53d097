/-!
# Eager-load lists

An eager-load list names the relations to load, by their own names or by dotted
paths that lead through other relations.  Loading a relation hands the rest of
every path that goes on from it to the level below, and the list below is
always smaller, counted in characters.
-/

namespace RecordGraph

/-- What happens to the entries that do not go on from a relation. -/
inductive PrunePolicy where
  /-- They stay as empty entries, which match no relation. -/
  | blankUnmatched
  /-- They are removed. -/
  | dropUnmatched
  deriving DecidableEq, Repr

/-- A list of relation names and dotted paths. -/
structure EagerLoad where
  entries : List String
  deriving DecidableEq, Repr

namespace EagerLoad

/-- The list that loads nothing. -/
def empty : EagerLoad := ⟨[]⟩

def add (load : EagerLoad) (path : String) : EagerLoad := ⟨load.entries ++ [path]⟩

def isExhausted (load : EagerLoad) : Bool := load.entries.all (· == "")

/-- Whether an entry is the given name; the empty name is never found. -/
def contains (load : EagerLoad) (name : String) : Bool := name != "" && name ∈ load.entries

/-- The name under which a relation is selected: that of its target if it is
listed, or else that of the field it is attached to. -/
def matched? (load : EagerLoad) (target field : String) : Option String :=
  if load.contains target then some target
  else if load.contains field then some field
  else none

def afterName? : List Char → List Char → Option (List Char)
  | [], '.' :: rest => some rest
  | expected :: name, char :: rest => if expected = char then afterName? name rest else none
  | _, _ => none

/-- The entry of the level below that an entry gives rise to. -/
def below? (policy : PrunePolicy) (name entry : String) : Option String :=
  match afterName? name.toList entry.toList with
  | some rest => some (String.ofList rest)
  | none =>
      match policy with
      | .blankUnmatched => some ""
      | .dropUnmatched => none

/-- The list for the level below the relation selected under a name.  The entry
that selected it is used up, and of every other entry the part after the name
remains. -/
def descend (load : EagerLoad) (policy : PrunePolicy) (name : String) : EagerLoad :=
  ⟨(load.entries.erase name).filterMap (below? policy name)⟩

/-! ## Size -/

/-- The number of characters in all listed entries together. -/
def totalLength : List String → Nat
  | [] => 0
  | entry :: rest => entry.length + totalLength rest

def size (load : EagerLoad) : Nat := totalLength load.entries

theorem length_afterName?_le {name entry rest : List Char}
    (found : afterName? name entry = some rest) : rest.length ≤ entry.length := by
  fun_induction afterName? name entry with
  | case1 => simp_all
  | case2 expected name rest' inductionHypothesis =>
      have := inductionHypothesis found
      simp only [List.length_cons]
      omega
  | case3 => simp at found
  | case4 => simp at found

theorem length_below?_le {policy : PrunePolicy} {name entry result : String}
    (found : below? policy name entry = some result) : result.length ≤ entry.length := by
  unfold below? at found
  split at found
  · rename_i rest restFound
    obtain rfl := Option.some.inj found
    rw [String.length_ofList, ← String.length_toList]
    exact length_afterName?_le restFound
  · cases policy
    · obtain rfl := Option.some.inj found
      simp
    · simp at found

/-- The entries below never have more characters than the entries they come from. -/
theorem totalLength_filterMap_below?_le (policy : PrunePolicy) (name : String)
    (entries : List String) :
    totalLength (entries.filterMap (below? policy name)) ≤ totalLength entries := by
  induction entries with
  | nil => simp
  | cons entry rest inductionHypothesis =>
      rw [List.filterMap_cons]
      split
      · simp only [totalLength]
        omega
      · rename_i result found
        have := length_below?_le found
        simp only [totalLength]
        omega

theorem totalLength_erase {entries : List String} {name : String} (member : name ∈ entries) :
    totalLength (entries.erase name) + name.length = totalLength entries := by
  induction entries with
  | nil => simp at member
  | cons entry rest inductionHypothesis =>
      by_cases sameEntry : entry = name
      · subst sameEntry
        rw [List.erase_cons_head]
        simp only [totalLength]
        omega
      · have inRest : name ∈ rest := by
          rcases List.mem_cons.mp member with equality | inRest
          · exact absurd equality.symm sameEntry
          · exact inRest
        have := inductionHypothesis inRest
        rw [List.erase_cons_tail (by simpa using sameEntry)]
        simp only [totalLength]
        omega

theorem size_descend_lt {load : EagerLoad} {name : String} (policy : PrunePolicy)
    (contained : load.contains name = true) : (load.descend policy name).size < load.size := by
  simp only [contains, Bool.and_eq_true, bne_iff_ne, ne_eq, decide_eq_true_eq] at contained
  have removed := totalLength_erase contained.2
  have kept := totalLength_filterMap_below?_le policy name (load.entries.erase name)
  have nonempty : 0 < name.length := by
    rcases Nat.eq_zero_or_pos name.length with zero | positive
    · exact absurd (String.length_eq_zero_iff.mp zero) contained.1
    · exact positive
  simp only [size, descend]
  omega

/-- A relation is selected under a name that the list contains. -/
theorem contains_of_matched? {load : EagerLoad} {target field name : String}
    (found : load.matched? target field = some name) : load.contains name = true := by
  unfold matched? at found
  split at found
  · rename_i contained
    obtain rfl := Option.some.inj found
    exact contained
  · split at found
    · rename_i contained
      obtain rfl := Option.some.inj found
      exact contained
    · simp at found

end EagerLoad

end RecordGraph
