import RecordGraph.EagerLoad
import RecordGraph.Json.Decode

/-!
# Find options

A find call can load relations, restrict the fields of the records it returns
and read another collection than that of its mapper.
-/

namespace RecordGraph

/-- A selection of fields. -/
inductive Fields where
  | one (name : String)
  | many (names : List String)
  deriving DecidableEq, Repr

namespace Fields

def names : Fields → List String
  | .one name => [name]
  | .many names => names

def projection (fields : Fields) : Document :=
  Document.ofEntries (fields.names.map fun name => (name, .number (.ofNat 1)))

def toValue : Fields → Value
  | .one name => .string name
  | .many names => .array (names.map .string)

/-- Read a selection: a name or a list of names. -/
def ofTree? : Tree → Option Fields
  | .string spelled => spelled.map .one
  | tree => (Tree.list? Tree.text? tree).map .many

end Fields

/-- The options of a find call. -/
structure FindOptions where
  /-- The relations to load. -/
  load : EagerLoad
  /-- The fields to return, all of them if none are selected. -/
  fields : Option Fields
  /-- The collection to read, if it is not that of the mapper. -/
  collection : Option String
  deriving DecidableEq, Repr

namespace FindOptions

def none : FindOptions := ⟨.empty, .none, .none⟩

def projection (options : FindOptions) : Option Document := options.fields.map Fields.projection

def toDocument (options : FindOptions) : Document :=
  Document.ofPresent
    [("with", some (.array (options.load.entries.map .string))),
      ("fields", options.fields.map Fields.toValue),
      ("collection", options.collection.map .string)]

def ofTree? (tree : Tree) : Option FindOptions := do
  let fields ← tree.fields? ["with", "fields", "collection"]
  let entries ← Tree.defaulted [] (Tree.list? Tree.text?) fields "with"
  let selected ← Tree.optional Fields.ofTree? fields "fields"
  let collection ← Tree.optional Tree.text? fields "collection"
  return { load := ⟨entries⟩, fields := selected, collection }

end FindOptions

end RecordGraph
