import RecordGraph.Catalog.Relation
import RecordGraph.Text.SnakeCase

/-!
# Mappers

A mapper describes a type of records: the collection that stores them, the field
that identifies them and their relations to other mappers.
-/

namespace RecordGraph

/-- A type of records. -/
structure Mapper where
  name : String
  /-- The identity field, if it is not the default one. -/
  idAttribute : Option String
  /-- The collection. -/
  table : Option String
  /-- The collection, if no table is given. -/
  collection : Option String
  /-- The relations, in the order in which they are loaded. -/
  relations : List Relation
  deriving DecidableEq, Repr

namespace Mapper

def named (name : String) : Mapper := ⟨name, none, none, none, []⟩

def withIdAttribute (mapper : Mapper) (field : String) : Mapper :=
  { mapper with idAttribute := some field }

def withTable (mapper : Mapper) (table : String) : Mapper := { mapper with table := some table }

def withRelation (mapper : Mapper) (relation : Relation) : Mapper :=
  { mapper with relations := mapper.relations ++ [relation] }

def identity (mapper : Mapper) (default : String) : String := mapper.idAttribute.getD default

/-- The collection of the records: the one asked for, the declared one, or the
snake case form of the name. -/
def collectionName (mapper : Mapper) (asked : Option String) : String :=
  ((asked.or mapper.table).or mapper.collection).getD (snakeCase mapper.name)

def toDocument (mapper : Mapper) : Document :=
  Document.ofPresent
    [("name", some (.string mapper.name)), ("idAttribute", mapper.idAttribute.map .string),
      ("table", mapper.table.map .string), ("collection", mapper.collection.map .string),
      ("relations", some (.array (mapper.relations.map fun relation => .object relation.toDocument)))]

def ofTree? (tree : Tree) : Option Mapper := do
  let fields ← tree.fields? ["name", "idAttribute", "table", "collection", "relations"]
  let name ← Tree.required Tree.text? fields "name"
  let idAttribute ← Tree.optional Tree.text? fields "idAttribute"
  let table ← Tree.optional Tree.text? fields "table"
  let collection ← Tree.optional Tree.text? fields "collection"
  let relations ← Tree.defaulted [] (Tree.list? Relation.ofTree?) fields "relations"
  return { name, idAttribute, table, collection, relations }

end Mapper

end RecordGraph
