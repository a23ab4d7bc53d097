import RecordGraph.Resolve.Interleaved

/-!
# Loading in place

Whoever loads relations onto records hands the records over and has them back
afterwards, whether loading succeeds or fails.  What is loaded is attached to the
records one relation after the other, once every relation of their level is loaded.
-/

namespace RecordGraph

/-- An action on records, which are there also when it fails. -/
abbrev Update := ExceptT AccessError (StateM (List Document × Session))

namespace Update

variable {α : Type}

def outcome (action : Update α) (records : List Document) (session : Session) :
    Except AccessError α × List Document × Session :=
  action (records, session)

/-- The records as they are. -/
def records : Update (List Document) := fun (records, session) => (.ok records, records, session)

/-- Do something in the session. -/
def access (action : Access α) : Update α := fun (records, session) =>
  let (result, after) := action.outcome session
  (result, records, after)

def attach (found : Loaded) : Update Unit := fun (records, session) =>
  (.ok (), found.task.attach found.related records, session)

/-- Take an action on the given records, and give them as they are after it. -/
def onto (given : List Document) (action : Update Unit) : Access (List Document) := fun session =>
  match action.outcome given session with
  | (.ok (), changed, after) => (.ok changed, after)
  | (.error error, _, after) => (.error error, after)

end Update

namespace Plan

/-- Load the relations of a level, without attaching anything to its owners. -/
def loading (plan : Plan) (pace : Pace) (batch : Batch) (owners : List Document) :
    Access (List Loaded) :=
  match pace with
  | .direct => plan.gather batch owners
  | .interleaved => fun session =>
      (Process.join (plan.processes session.store batch owners)).complete session

/-- Load everything planned onto the records of the level. -/
def update (plan : Plan) (pace : Pace) (batch : Batch) : Update Unit := do
  let owners ← Update.records
  unless owners.isEmpty do
    let loaded ← Update.access (plan.loading pace batch owners)
    loaded.forM Update.attach

end Plan

end RecordGraph
