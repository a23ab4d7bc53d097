import RecordGraph.Json.Tree

/-!
# Reading structures

A structure is written as an object with named fields or as an array with the
fields in their declared order.  Keys that name no field are ignored, but a
field may not be given twice.  How a field behaves when it is missing or null is
said where it is read.
-/

namespace RecordGraph

namespace Tree

/-! ## Fields of a structure -/

/-- The entries of an object whose keys are among the names; none of them may be
repeated. -/
def namedEntries? (names : List String) :
    List (Option String × Tree) → Option (List (String × Tree))
  | [] => some []
  | (none, _) :: _ => none
  | (some key, tree) :: rest =>
      (namedEntries? names rest).bind fun found =>
        if key ∉ names then some found
        else if (found.lookup key).isSome then none
        else some ((key, tree) :: found)

/-- The fields of a structure with the given names in declared order. -/
def fields? (names : List String) : Tree → Option (List (String × Tree))
  | .object entries => namedEntries? names entries
  | .array items => if items.length ≤ names.length then some (names.zip items) else none
  | _ => none

def required {α : Type} (read : Tree → Option α) (fields : List (String × Tree)) (name : String) :
    Option α :=
  (fields.lookup name).bind read

/-- Read a field that may be missing or null. -/
def optional {α : Type} (read : Tree → Option α) (fields : List (String × Tree)) (name : String) :
    Option (Option α) :=
  match fields.lookup name with
  | none => some none
  | some .null => some none
  | some tree => (read tree).map some

/-- Read a field that has a default when it is missing; null is not a default. -/
def defaulted {α : Type} (default : α) (read : Tree → Option α) (fields : List (String × Tree))
    (name : String) : Option α :=
  match fields.lookup name with
  | none => some default
  | some tree => read tree

/-! ## Contents of fields -/

def text? : Tree → Option String
  | .string spelled => spelled
  | _ => none

def list? {α : Type} (read : Tree → Option α) : Tree → Option (List α)
  | .array items => items.mapM read
  | _ => none

/-- Read a count, which has to be a whole number. -/
def count? : Tree → Option Count
  | .number (some (.whole value)) => value.count?
  | _ => none

/-- Read the name of a variant: a string, or an object with the name as its only
key and null as its value. -/
def variant? : Tree → Option String
  | .string spelled => spelled
  | .object [(key, .null)] => key
  | _ => none

mutual

def depth : Tree → Nat
  | .array items => depthOfItems items + 1
  | .object entries => depthOfEntries entries + 1
  | _ => 0

def depthOfItems : List Tree → Nat
  | [] => 0
  | item :: rest => max item.depth (depthOfItems rest)

def depthOfEntries : List (Option String × Tree) → Nat
  | [] => 0
  | (_, tree) :: rest => max tree.depth (depthOfEntries rest)

end

def value? (tree : Tree) : Option Value := tree.toValue? tree.depth

end Tree

def Document.ofPresent (entries : List (String × Option Value)) : Document :=
  entries.filterMap fun entry => entry.2.map fun value => (entry.1, value)

end RecordGraph
