import RecordGraph.Json.Decode

/-!
# Relations

A relation is declared on the mapper of its owners and names a target mapper, the
field of the owner to which related records are attached, and one or more key
fields.  Which of the keys counts, and how, is the relation's join.
-/

namespace RecordGraph

/-- The declared type of a relation. -/
inductive RelationType where
  /-- The owner holds the key of one related record. -/
  | belongsTo
  /-- One related record holds the key of the owner. -/
  | hasOne
  /-- Many related records belong to the owner. -/
  | hasMany
  deriving DecidableEq, Repr

/-- A declared relation. -/
structure Relation where
  type : RelationType
  /-- The name of the target mapper. -/
  target : String
  /-- The path of the owner's field to which related records are attached. -/
  localField : String
  /-- A key field: of the owner if the relation belongs to its target, of the
  related records otherwise. -/
  foreignKey : Option String
  /-- Another name for a key field of the owner. -/
  localKey : Option String
  /-- A field of the owner that lists keys of related records. -/
  localKeys : Option String
  /-- A field of related records that lists keys of owners. -/
  foreignKeys : Option String
  deriving DecidableEq, Repr

/-! ## Joins -/

/-- How related records are found. -/
inductive Join where
  /-- The related record whose identity is the owner's key. -/
  | parent (key : String)
  /-- The first related record whose key is the owner's identity. -/
  | firstChild (foreignKey : String)
  /-- The related records whose key is the owner's identity. -/
  | children (foreignKey : String)
  /-- The related records whose identities the owner lists. -/
  | listed (localKeys : String)
  /-- The related records that list the owner's identity. -/
  | listing (foreignKeys : String)
  deriving DecidableEq, Repr

namespace Join

def label : Join → String
  | .parent _ => "belongsTo"
  | .firstChild _ => "hasOne"
  | .children _ => "hasMany"
  | .listed _ => "hasMany(localKeys)"
  | .listing _ => "hasMany(foreignKeys)"

def key : Join → String
  | .parent key => key
  | .firstChild foreignKey => foreignKey
  | .children foreignKey => foreignKey
  | .listed localKeys => localKeys
  | .listing foreignKeys => foreignKeys

end Join

namespace Relation

def keyless (type : RelationType) (target localField : String) : Relation :=
  ⟨type, target, localField, none, none, none, none⟩

/-- A relation to the record whose key the owner holds. -/
def belongsTo (target localField foreignKey : String) : Relation :=
  { keyless .belongsTo target localField with foreignKey := some foreignKey }

/-- A relation to the first record that holds the owner's key. -/
def hasOne (target localField foreignKey : String) : Relation :=
  { keyless .hasOne target localField with foreignKey := some foreignKey }

/-- A relation to all records that hold the owner's key. -/
def hasMany (target localField foreignKey : String) : Relation :=
  { keyless .hasMany target localField with foreignKey := some foreignKey }

def hasManyListed (target localField localKeys : String) : Relation :=
  { keyless .hasMany target localField with localKeys := some localKeys }

def hasManyListing (target localField foreignKeys : String) : Relation :=
  { keyless .hasMany target localField with foreignKeys := some foreignKeys }

def withLocalKey (relation : Relation) (localKey : String) : Relation :=
  { relation with localKey := some localKey }

/-- The join of a relation; a relation without a usable key has none. -/
def join? (relation : Relation) : Option Join :=
  match relation.type with
  | .belongsTo => (relation.foreignKey.or relation.localKey).map .parent
  | .hasOne => (relation.foreignKey.map .firstChild).or (relation.localKey.map .parent)
  | .hasMany =>
      ((relation.foreignKey.map .children).or (relation.localKeys.map .listed)).or
        (relation.foreignKeys.map .listing)

end Relation

/-! ## Written form -/

def RelationType.name : RelationType → String
  | .belongsTo => "belongsTo"
  | .hasOne => "hasOne"
  | .hasMany => "hasMany"

def RelationType.ofTree? (tree : Tree) : Option RelationType :=
  tree.variant?.bind fun word =>
    if word = "belongsTo" then some .belongsTo
    else if word = "hasOne" then some .hasOne
    else if word = "hasMany" then some .hasMany
    else none

namespace Relation

def toDocument (relation : Relation) : Document :=
  Document.ofPresent
    [("type", some (.string relation.type.name)), ("relation", some (.string relation.target)),
      ("localField", some (.string relation.localField)),
      ("foreignKey", relation.foreignKey.map .string),
      ("localKey", relation.localKey.map .string),
      ("localKeys", relation.localKeys.map .string),
      ("foreignKeys", relation.foreignKeys.map .string)]

def ofTree? (tree : Tree) : Option Relation := do
  let fields ← tree.fields?
    ["type", "relation", "localField", "foreignKey", "localKey", "localKeys", "foreignKeys"]
  let type ← Tree.required RelationType.ofTree? fields "type"
  let target ← Tree.required Tree.text? fields "relation"
  let localField ← Tree.required Tree.text? fields "localField"
  let foreignKey ← Tree.optional Tree.text? fields "foreignKey"
  let localKey ← Tree.optional Tree.text? fields "localKey"
  let localKeys ← Tree.optional Tree.text? fields "localKeys"
  let foreignKeys ← Tree.optional Tree.text? fields "foreignKeys"
  return { type, target, localField, foreignKey, localKey, localKeys, foreignKeys }

end Relation

end RecordGraph
