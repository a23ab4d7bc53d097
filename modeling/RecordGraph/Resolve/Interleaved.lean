import RecordGraph.Resolve.Join
import RecordGraph.Resolve.Sequential

/-!
# Loading side by side

When store calls complete after a pause, the relations of a level are loaded side by
side.  The task of a relation makes its call and pauses; when it is resumed, the
store answers, and the level below is loaded before the task ends.  As in sequence,
nothing is attached before all relations of the level are loaded.
-/

namespace RecordGraph

/-- Load a task: the process for the level below is made from what its call finds. -/
def Task.process (task : Task) (store : Store)
    (below : Batch → List Document → Process (List Document)) : Process Loaded :=
  match task.start with
  | .nothing => .done [] (.ok ⟨task, []⟩)
  | .failure error => .done [] (.error error)
  | .call call nested =>
      .pause [.event (.start call.request.collection)] fun _ =>
        match store.attempt call with
        | (entries, .error error) => .done entries (.error error)
        | (entries, .ok found) => ((below nested found).map (Loaded.mk task)).after entries

namespace Plan

/-- Load a level side by side: one without owners has nothing to load. -/
def levelProcess (owners : List Document) (tasks : List (Process Loaded)) :
    Process (List Document) :=
  if owners.isEmpty then .done [] (.ok owners)
  else (Process.join tasks).map (Loaded.attachTo owners)

def processes (store : Store) (batch : Batch) (owners : List Document) :
    Plan → List (Process Loaded)
  | .done => []
  | .unknown target => [.done [] (.error (.unknownMapper target))]
  | .load step below rest =>
      (step.task batch owners).process store
          (fun nested found => levelProcess found ((below ()).processes store nested found)) ::
        rest.processes store batch owners

def resolveInterleaved (plan : Plan) (batch : Batch) (owners : List Document) :
    Access (List Document) := fun session =>
  (levelProcess owners (plan.processes session.store batch owners)).complete session

end Plan

end RecordGraph
