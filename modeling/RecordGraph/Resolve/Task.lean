import RecordGraph.Json.Unique
import RecordGraph.Resolve.Plan
import RecordGraph.Session

/-!
# Relation tasks

A task loads one relation for all owners of a level.  It makes at most one store
call of its own, with a query that depends on the keys of the owners, and then
gives every owner the related records that are its own.  A single owner is
served by a query for its own key, several owners by one query for the distinct
keys of all.
-/

namespace RecordGraph

/-- Whether a level has one owner of its own or a list of them. -/
inductive Batch where
  | single
  | many
  deriving DecidableEq, Repr

/-- A relation to be loaded for the owners of a level. -/
structure Task where
  step : Step
  batch : Batch
  /-- The value of the key field of each owner. -/
  keys : List (Option Value)
  deriving DecidableEq, Repr

/-- What a task does first. -/
inductive TaskStart where
  /-- There is nothing to load. -/
  | nothing
  /-- The task fails. -/
  | failure (error : AccessError)
  /-- The task makes a call; the level below is entered with the given batch. -/
  | call (call : Call (List Document)) (below : Batch)

def Step.ownerField (step : Step) : String :=
  match step.join with
  | .parent key => key
  | .listed localKeys => localKeys
  | .firstChild _ => step.ownerIdentity
  | .children _ => step.ownerIdentity
  | .listing _ => step.ownerIdentity

/-- The task of a step for the owners of a level. -/
def Step.task (step : Step) (batch : Batch) (owners : List Document) : Task :=
  ⟨step, batch, owners.map fun owner => owner.read? step.ownerField⟩

namespace Task

/-! ## Keys -/

/-- The keys that are present and truthy. -/
def usableKeys (task : Task) : List Value :=
  (task.keys.filterMap id).filter Value.truthy

/-- The key of the first owner, or null. -/
def firstKey (task : Task) : Value := (task.keys.head?.join).getD .null

/-- The keys that an owner lists: the items of an array, or the keys of an
object. -/
def listedKeys : Option Value → List Value
  | some (.array items) => items
  | some (.object entries) => (Document.keys entries).map .string
  | _ => []

/-! ## Calls -/

def criterion (field token : String) (operand : Value) : CompiledQuery :=
  (Selection.empty.withWhere field token operand).compile

/-- The call for all related records that satisfy one criterion. -/
def listCall (task : Task) (field token : String) (operand : Value) : TaskStart :=
  .call (.fetch (task.step.target.collectionName none) (criterion field token operand) none) .many

/-- The call for the first related record that satisfies one criterion. -/
def pointCall (task : Task) (field : String) (operand : Value) : TaskStart :=
  let call := Call.fetchOne (task.step.target.collectionName none)
    (criterion field "==" operand).filter none
  .call ⟨call.request, fun records => (call.answer records).toList⟩ .single

def start (task : Task) : TaskStart :=
  match task.step.join, task.batch with
  | .parent _, .single =>
      match (task.keys.head?.join).filter Value.truthy with
      | some key => task.pointCall task.step.targetIdentity key
      | none => .nothing
  | .parent _, .many =>
      task.listCall task.step.targetIdentity "in" (.array (Value.unique task.usableKeys))
  | .firstChild foreignKey, .single => task.listCall foreignKey "==" task.firstKey
  | .firstChild foreignKey, .many =>
      task.listCall foreignKey "in" (.array (Value.unique task.usableKeys))
  | .children foreignKey, .single => task.listCall foreignKey "==" task.firstKey
  | .children foreignKey, .many =>
      task.listCall foreignKey "in" (.array (Value.unique task.usableKeys))
  | .listed _, _ =>
      task.listCall task.step.targetIdentity "in"
        (.array ((Value.unique (task.keys.flatMap listedKeys)).filter Value.truthy))
  | .listing foreignKeys, _ =>
      if 1 < task.keys.length then
        .failure (.unsupported task.step.relation.target foreignKeys task.keys.length)
      else task.listCall foreignKeys "contains" task.firstKey

/-! ## Attachments -/

def withKey (field : String) (keys : List Value) (related : List Document) : List Document :=
  related.filter fun record =>
    match record.read? field with
    | some held => keys.any (·.equal held)
    | none => false

def listValue (records : List Document) : Value := .array (records.map .object)

/-- The first of the records as one value, or an empty array. -/
def firstValue (records : List Document) : Value :=
  match records with
  | [] => .array []
  | first :: _ => .object first

/-- The related records of the owner with the given key that hold this key in a
field. -/
def ownRecords (task : Task) (field : String) (related : List Document) (key : Option Value) :
    List Document :=
  match task.batch with
  | .single => related
  | .many => withKey field key.toList related

/-- What each owner is given, once the related records are there: a value for its
field, or nothing. -/
def attachments (task : Task) (related : List Document) : List (Option Value) :=
  match task.step.join with
  | .parent _ =>
      task.keys.map fun key =>
        (task.ownRecords task.step.targetIdentity related key).head?.map .object
  | .firstChild foreignKey =>
      task.keys.map fun key => some (firstValue (task.ownRecords foreignKey related key))
  | .children foreignKey =>
      task.keys.map fun key => some (listValue (task.ownRecords foreignKey related key))
  | .listed _ =>
      task.keys.map fun key =>
        match task.batch with
        | .single => some (listValue related)
        | .many =>
            some (listValue (withKey task.step.targetIdentity (listedKeys key) related))
  | .listing _ => task.keys.map fun _ => some (listValue related)

end Task

/-! ## Attaching -/

def attachOne (field : String) (owner : Document) : Option Value → Document
  | some value => owner.write field value
  | none => owner

def attachAll (field : String) (owners : List Document) (attachments : List (Option Value)) :
    List Document :=
  List.zipWith (attachOne field) owners attachments

def Task.attach (task : Task) (related : List Document) (owners : List Document) :
    List Document :=
  attachAll task.step.relation.localField owners (task.attachments related)

end RecordGraph
