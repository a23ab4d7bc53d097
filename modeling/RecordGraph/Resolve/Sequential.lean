import RecordGraph.Resolve.Task

/-!
# Loading in sequence

When store calls complete at once, the relations of a level are loaded in order,
each with everything below it before the next.  Nothing is attached before all
relations of the level are loaded, so a failure leaves the owners as they were.
-/

namespace RecordGraph

/-- A task with the related records that it loaded. -/
structure Loaded where
  task : Task
  related : List Document
  deriving DecidableEq, Repr

namespace Loaded

def attachTo (owners : List Document) (loaded : List Loaded) : List Document :=
  loaded.foldl (fun records found => found.task.attach found.related records) owners

end Loaded

namespace Plan

/-- Load a level: one without owners has nothing to load. -/
def level (owners : List Document) (gathered : Access (List Loaded)) : Access (List Document) :=
  if owners.isEmpty then pure owners
  else do
    let loaded ← gathered
    return Loaded.attachTo owners loaded

/-- Load the relations of a level one after the other. -/
def gather (batch : Batch) (owners : List Document) : Plan → Access (List Loaded)
  | .done => pure []
  | .unknown target => throw (.unknownMapper target)
  | .load step below rest => do
      let task := step.task batch owners
      let related ←
        match task.start with
        | .nothing => pure []
        | .failure error => throw error
        | .call call nested => do
            let found ← Access.perform call
            level found ((below ()).gather nested found)
      let later ← rest.gather batch owners
      return ⟨task, related⟩ :: later

/-- Load everything planned onto the owners, one relation after the other. -/
def resolve (plan : Plan) (batch : Batch) (owners : List Document) : Access (List Document) :=
  level owners (plan.gather batch owners)

end Plan

end RecordGraph
