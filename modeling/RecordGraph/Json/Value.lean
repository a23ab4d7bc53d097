import RecordGraph.Number

/-!
# Document values

A value is what JSON can write.  An object is the list of its entries in the
order in which they were first written; `Document` names that list, since
records, filters and projections are all objects.  Reading takes the first
entry of a key and writing keeps its position, so a document whose keys are
unique stays one.
-/

namespace RecordGraph

/-- A JSON value with ordered objects. -/
inductive Value where
  | null
  | bool (truth : Bool)
  | number (value : Number)
  | string (text : String)
  | array (items : List Value)
  | object (entries : List (String × Value))
  deriving Inhabited, Repr

/-- The entries of an object, in order. -/
abbrev Document := List (String × Value)

/-! ## Decidable equality -/

namespace Value

mutual

/-- Decide equality of two values, number form and key order included. -/
def decideEq : (left right : Value) → Decidable (left = right)
  | .null, .null => isTrue rfl
  | .bool left, .bool right =>
      if same : left = right then isTrue (by rw [same]) else isFalse (by simpa using same)
  | .number left, .number right =>
      if same : left = right then isTrue (by rw [same]) else isFalse (by simpa using same)
  | .string left, .string right =>
      if same : left = right then isTrue (by rw [same]) else isFalse (by simpa using same)
  | .array left, .array right =>
      match decideEqItems left right with
      | isTrue same => isTrue (by rw [same])
      | isFalse different => isFalse (by simpa using different)
  | .object left, .object right =>
      match decideEqEntries left right with
      | isTrue same => isTrue (by rw [same])
      | isFalse different => isFalse (by simpa using different)
  | .null, .bool _ | .null, .number _ | .null, .string _ | .null, .array _ | .null, .object _
  | .bool _, .null | .bool _, .number _ | .bool _, .string _ | .bool _, .array _
  | .bool _, .object _ | .number _, .null | .number _, .bool _ | .number _, .string _
  | .number _, .array _ | .number _, .object _ | .string _, .null | .string _, .bool _
  | .string _, .number _ | .string _, .array _ | .string _, .object _ | .array _, .null
  | .array _, .bool _ | .array _, .number _ | .array _, .string _ | .array _, .object _
  | .object _, .null | .object _, .bool _ | .object _, .number _ | .object _, .string _
  | .object _, .array _ => isFalse (by simp)

def decideEqItems : (left right : List Value) → Decidable (left = right)
  | [], [] => isTrue rfl
  | [], _ :: _ => isFalse (by simp)
  | _ :: _, [] => isFalse (by simp)
  | left :: leftRest, right :: rightRest =>
      match decideEq left right, decideEqItems leftRest rightRest with
      | isTrue same, isTrue sameRest => isTrue (by rw [same, sameRest])
      | isFalse different, _ => isFalse (by simp [different])
      | _, isFalse different => isFalse (by simp [different])

def decideEqEntries : (left right : List (String × Value)) → Decidable (left = right)
  | [], [] => isTrue rfl
  | [], _ :: _ => isFalse (by simp)
  | _ :: _, [] => isFalse (by simp)
  | (leftKey, left) :: leftRest, (rightKey, right) :: rightRest =>
      if sameKey : leftKey = rightKey then
        match decideEq left right, decideEqEntries leftRest rightRest with
        | isTrue same, isTrue sameRest => isTrue (by rw [sameKey, same, sameRest])
        | isFalse different, _ => isFalse (by simp [different])
        | _, isFalse different => isFalse (by simp [different])
      else
        isFalse (by simp [sameKey])

end

instance : DecidableEq Value := decideEq

end Value

/-! ## Documents -/

namespace Document

def get? (document : Document) (key : String) : Option Value := document.lookup key

def hasKey (document : Document) (key : String) : Bool := (document.get? key).isSome

/-- Write a key: an existing entry keeps its position, a new one goes last. -/
def set (document : Document) (key : String) (value : Value) : Document :=
  match document with
  | [] => [(key, value)]
  | (first, held) :: rest =>
      if first = key then (first, value) :: rest else (first, held) :: set rest key value

def keys (document : Document) : List String := document.map Prod.fst

/-- Write entries one after the other, so that a repeated key keeps its first
position and its last value. -/
def ofEntries (entries : List (String × Value)) : Document :=
  entries.foldl (fun document entry => set document entry.1 entry.2) []

def UniqueKeys (document : Document) : Prop := (keys document).Nodup

/-! ### Reading what was written -/

@[simp]
theorem get?_nil (key : String) : get? [] key = none := rfl

theorem get?_cons (first : String) (held : Value) (rest : Document) (key : String) :
    get? ((first, held) :: rest) key = if key = first then some held else get? rest key := by
  by_cases sameKey : key = first
  · subst sameKey
    simp [get?]
  · have differs : (key == first) = false := by simpa using sameKey
    simp [get?, List.lookup_cons, differs, sameKey]

/-- A key that was written reads as what was written. -/
@[simp]
theorem get?_set_self (document : Document) (key : String) (value : Value) :
    get? (set document key value) key = some value := by
  induction document with
  | nil => simp [set, get?_cons]
  | cons entry rest inductionHypothesis =>
      rcases entry with ⟨first, held⟩
      by_cases sameKey : first = key
      · simp [set, sameKey, get?_cons]
      · simp only [set, sameKey, if_false, get?_cons, inductionHypothesis]
        rw [if_neg (fun equality => sameKey equality.symm)]

/-- Writing a key leaves every other key alone. -/
theorem get?_set_of_ne {key other : String} (different : other ≠ key) (document : Document)
    (value : Value) : get? (set document key value) other = get? document other := by
  induction document with
  | nil => simp [set, get?_cons, different]
  | cons entry rest inductionHypothesis =>
      rcases entry with ⟨first, held⟩
      by_cases sameKey : first = key
      · subst sameKey
        simp [set, get?_cons, different]
      · simp only [set, sameKey, if_false, get?_cons, inductionHypothesis]

/-- The second of two values written to a key is the one that stays. -/
theorem set_set (document : Document) (key : String) (first second : Value) :
    set (set document key first) key second = set document key second := by
  induction document with
  | nil => simp [set]
  | cons entry rest inductionHypothesis =>
      rcases entry with ⟨name, held⟩
      by_cases sameKey : name = key
      · simp [set, sameKey]
      · simp [set, sameKey, inductionHypothesis]

/-- Writing a key adds it at the end unless it is there. -/
theorem keys_set (document : Document) (key : String) (value : Value) :
    keys (set document key value) =
      if key ∈ keys document then keys document else keys document ++ [key] := by
  induction document with
  | nil => simp [set, keys]
  | cons entry rest inductionHypothesis =>
      rcases entry with ⟨first, held⟩
      by_cases sameKey : first = key
      · simp [set, sameKey, keys]
      · have different : key ≠ first := fun equality => sameKey equality.symm
        simp only [keys] at inductionHypothesis
        by_cases present : key ∈ rest.map Prod.fst
        · simp only [set, sameKey, if_false, keys, List.map_cons, inductionHypothesis, present,
            if_true, List.mem_cons, or_true]
        · simp only [set, sameKey, if_false, keys, List.map_cons, inductionHypothesis, present,
            List.mem_cons, different, or_self, List.cons_append]

theorem uniqueKeys_set {document : Document} (unique : UniqueKeys document) (key : String)
    (value : Value) : UniqueKeys (set document key value) := by
  unfold UniqueKeys at unique ⊢
  rw [keys_set]
  split
  · exact unique
  · rename_i absent
    rw [List.nodup_append]
    refine ⟨unique, by simp, ?_⟩
    intro present presentMember added addedMember
    rw [List.mem_singleton.mp addedMember]
    intro equality
    exact absent (equality ▸ presentMember)

theorem uniqueKeys_ofEntries (entries : List (String × Value)) :
    UniqueKeys (ofEntries entries) := by
  have generalized : ∀ document : Document, UniqueKeys document →
      UniqueKeys (entries.foldl (fun held entry => set held entry.1 entry.2) document) := by
    induction entries with
    | nil => exact fun _ unique => unique
    | cons entry rest inductionHypothesis =>
        intro document unique
        exact inductionHypothesis _ (uniqueKeys_set unique entry.1 entry.2)
  exact generalized [] List.nodup_nil

end Document

namespace Value

/-! ## Kinds and truth -/

/-- The six kinds of values. -/
inductive Kind where
  | null | boolean | number | string | array | object
  deriving DecidableEq, Repr

def Kind.name : Kind → String
  | .null => "null"
  | .boolean => "boolean"
  | .number => "number"
  | .string => "string"
  | .array => "array"
  | .object => "object"

def kind : Value → Kind
  | .null => .null
  | .bool _ => .boolean
  | .number _ => .number
  | .string _ => .string
  | .array _ => .array
  | .object _ => .object

/-- Loose truth: null, false, zero and the empty string are false, and every
other value is true, an empty array or object too. -/
def truthy : Value → Bool
  | .null => false
  | .bool value => value
  | .number value => !value.isZero
  | .string value => value != ""
  | .array _ => true
  | .object _ => true

def document? : Value → Option Document
  | .object entries => some entries
  | _ => none

def text? : Value → Option String
  | .string text => some text
  | _ => none

end Value

/-- The object that a key holds, or an empty one. -/
def Document.child (document : Document) (key : String) : Document :=
  ((document.get? key).bind Value.document?).getD []

namespace Value

/-! ## Structural equality -/

mutual

/-- Equality of content: numbers in the same form, arrays in order, objects as
unordered maps. -/
def same : Value → Value → Bool
  | .null, .null => true
  | .bool left, .bool right => left == right
  | .number left, .number right => left.same right
  | .string left, .string right => left == right
  | .array left, .array right => sameItems left right
  | .object left, .object right => left.length == right.length && sameEntries left right
  | _, _ => false

def sameItems : List Value → List Value → Bool
  | [], [] => true
  | left :: leftRest, right :: rightRest => left.same right && sameItems leftRest rightRest
  | _, _ => false

/-- Whether every entry has a counterpart of the same content. -/
def sameEntries : List (String × Value) → List (String × Value) → Bool
  | [], _ => true
  | (key, left) :: rest, others =>
      (match others.lookup key with
        | some right => left.same right
        | none => false) &&
      sameEntries rest others

end

/-! ## Well-formed values -/

mutual

/-- No object inside the value has a key twice. -/
def WellFormed : Value → Prop
  | .array items => WellFormedItems items
  | .object entries => (entries.map Prod.fst).Nodup ∧ WellFormedEntries entries
  | _ => True

def WellFormedItems : List Value → Prop
  | [] => True
  | item :: rest => item.WellFormed ∧ WellFormedItems rest

def WellFormedEntries : List (String × Value) → Prop
  | [] => True
  | (_, value) :: rest => value.WellFormed ∧ WellFormedEntries rest

end

end Value

end RecordGraph
