import RecordGraph.Json.Tree

/-!
# Selection queries

A selection query is an object that says which records are wanted and how they
are ordered and cut.  Its criteria stand under `where` or directly at the top
level, beside six reserved keys.
-/

namespace RecordGraph

/-- A selection query, kept as the object it was written as. -/
structure Selection where
  entries : Document
  deriving DecidableEq, Repr

/-- Why a selection query cannot be read. -/
inductive SelectionError where
  /-- The text is not JSON. -/
  | malformed
  /-- The value is of a kind that is no query. -/
  | notAnObject (kind : Value.Kind)
  deriving DecidableEq, Repr

/-- The wording of an error; text that is not JSON has none of its own. -/
def SelectionError.message : SelectionError → String
  | .malformed => ""
  | .notAnObject kind => "selection query must be an object, got " ++ kind.name

namespace Selection

def empty : Selection := ⟨[]⟩

/-- The top-level keys that never name a field. -/
def reserved : List String := ["orderBy", "sort", "limit", "offset", "skip", "where"]

def isReserved (key : String) : Bool := reserved.contains key

def get? (selection : Selection) (key : String) : Option Value := selection.entries.get? key

/-! ## Reading -/

/-- Read a query from a value: an object, or null for the empty query. -/
def ofValue (value : Value) : Except SelectionError Selection :=
  match value with
  | .object entries => .ok ⟨entries⟩
  | .null => .ok .empty
  | other => .error (.notAnObject other.kind)

def ofText (text : String) : Except SelectionError Selection :=
  match Value.parse? text with
  | some value => ofValue value
  | none => .error .malformed

/-! ## Building -/

def withFilter (selection : Selection) (field : String) (value : Value) : Selection :=
  ⟨selection.entries.set field value⟩

/-- Add a criterion under `where`, beside the criteria that the field already
has there in object form. -/
def withWhere (selection : Selection) (field token : String) (value : Value) : Selection :=
  let fields := selection.entries.child "where"
  let criteria := fields.child field
  ⟨selection.entries.set "where" (.object (fields.set field (.object (criteria.set token value))))⟩

def withOrderBy (selection : Selection) (order : Value) : Selection :=
  ⟨selection.entries.set "orderBy" order⟩

def withSkip (selection : Selection) (count : Count) : Selection :=
  ⟨selection.entries.set "skip" (.number (.whole (.ofCount count)))⟩

def withLimit (selection : Selection) (count : Count) : Selection :=
  ⟨selection.entries.set "limit" (.number (.whole (.ofCount count)))⟩

end Selection

end RecordGraph
