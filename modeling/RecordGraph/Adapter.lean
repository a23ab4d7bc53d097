import RecordGraph.Adapter.FindOptions
import RecordGraph.Resolve.InPlace

/-!
# The adapter

An adapter answers find calls: it compiles the query, reads the records from the
store and loads the relations that the call asks for onto them.
-/

namespace RecordGraph

/-- A catalog with the settings under which it is used. -/
structure Adapter where
  catalog : Catalog
  config : Config
  deriving DecidableEq, Repr

namespace Adapter

/-- The mapper of a name; the action fails if there is none. -/
def mapper (adapter : Adapter) (name : String) : Access Mapper :=
  match adapter.catalog.get? name with
  | some found => pure found
  | none => throw (.unknownMapper name)

/-! ## Loading relations -/

def resolve (adapter : Adapter) (pace : Pace) (batch : Batch) (mapper : Mapper)
    (owners : List Document) (load : EagerLoad) : Access (List Document) :=
  let plan := Plan.ofMapper adapter.catalog adapter.config mapper load
  match pace with
  | .direct => plan.resolve batch owners
  | .interleaved => plan.resolveInterleaved batch owners

def resolveMany (adapter : Adapter) (pace : Pace) (mapper : Mapper) (owners : List Document)
    (load : EagerLoad) : Access (List Document) :=
  adapter.resolve pace .many mapper owners load

def resolveOne (adapter : Adapter) (pace : Pace) (mapper : Mapper) (owner : Document)
    (load : EagerLoad) : Access Document := do
  let resolved ← adapter.resolve pace .single mapper [owner] load
  return resolved.headD owner

/-- Load relations onto the records at hand: one of its own, or a list of them. -/
def update (adapter : Adapter) (pace : Pace) (batch : Batch) (mapper : Mapper)
    (load : EagerLoad) : Update Unit :=
  (Plan.ofMapper adapter.catalog adapter.config mapper load).update pace batch

/-! ## Find calls -/

/-- The record of an identity, with the relations that the options ask for. -/
def find (adapter : Adapter) (pace : Pace) (name : String) (identity : Value)
    (options : FindOptions) : Access Document := do
  let mapper ← adapter.mapper name
  let collection := mapper.collectionName options.collection
  let field := mapper.identity adapter.config.defaultIdAttribute
  let filter := (Selection.empty.withWhere field "==" identity).filter
  match ← Access.call pace (.fetchOne collection filter options.projection) with
  | none => throw (.notFound collection identity)
  | some record => adapter.resolveOne pace mapper record options.load

/-- The records that a query selects, with the relations that the options ask
for. -/
def findAll (adapter : Adapter) (pace : Pace) (name : String) (selection : Selection)
    (options : FindOptions) : Access (List Document) := do
  let mapper ← adapter.mapper name
  let collection := mapper.collectionName options.collection
  let records ← Access.call pace (.fetch collection selection.compile options.projection)
  adapter.resolveMany pace mapper records options.load

def count (adapter : Adapter) (pace : Pace) (name : String) (selection : Selection)
    (options : FindOptions) : Access Nat := do
  let mapper ← adapter.mapper name
  let collection := mapper.collectionName options.collection
  Access.call pace (.count collection selection.compile)

end Adapter

end RecordGraph
