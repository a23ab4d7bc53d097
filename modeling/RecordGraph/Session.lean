import RecordGraph.Json.Token
import RecordGraph.Store

/-!
# Sessions

Calls on a store happen in a session, which holds the store and takes notes of
when calls start and when the store answers them.  An action either gives a
result or fails; what the session holds afterwards is kept in both cases.  What
the store does with a call depends on its collections alone, and not on what is
noted, so that it can be worked out apart from any session.
-/

namespace RecordGraph

/-! ## Failures -/

/-- Why an action on records fails. -/
inductive AccessError where
  /-- A mapper is not registered. -/
  | unknownMapper (name : String)
  /-- Several owners ask for the records that list them. -/
  | unsupported (target foreignKeys : String) (owners : Nat)
  /-- The store refuses calls on a collection. -/
  | unavailable (collection : String)
  /-- No record has the identity that was asked for. -/
  | notFound (collection : String) (identity : Value)
  deriving DecidableEq, Repr

def AccessError.message : AccessError → String
  | .unknownMapper name => "unknown mapper: " ++ name
  | .unsupported target foreignKeys owners =>
      "unsupported configuration: hasMany " ++ target ++ " via foreignKeys \"" ++ foreignKeys ++
        "\" across " ++ String.ofList (Nat.toDigits 10 owners) ++ " records"
  | .unavailable collection => "fetch error: " ++ collection ++ " is unavailable"
  | .notFound collection identity =>
      "record not found in " ++ collection ++ ": " ++ identity.compact

/-! ## The session -/

/-- Something that happens to a call which does not complete at once. -/
inductive Event where
  | start (collection : String)
  | run (collection : String)
  deriving DecidableEq, Repr

/-- A store in use. -/
structure Session where
  store : Store
  events : List Event
  deriving DecidableEq, Repr

/-- A line in the notes that a session takes. -/
inductive Entry where
  | event (event : Event)
  | request (request : Request)
  deriving DecidableEq, Repr

namespace Session

def write (session : Session) : Entry → Session
  | .event event => { session with events := session.events ++ [event] }
  | .request request =>
      { session with store := { session.store with log := session.store.log ++ [request] } }

def writeAll (session : Session) (entries : List Entry) : Session := entries.foldl write session

end Session

/-- What the store does with a call whose time has come: the entries to write, and
the answer unless the collection is unavailable. -/
def Store.attempt {Answer : Type} (store : Store) (call : Call Answer) :
    List Entry × Except AccessError Answer :=
  let collection := call.request.collection
  if collection ∈ store.unavailable then
    ([.event (.run collection)], .error (.unavailable collection))
  else
    ([.event (.run collection), .request call.request],
      .ok (call.answer (store.records collection)))

abbrev Access := ExceptT AccessError (StateM Session)

namespace Access

def outcome {α : Type} (action : Access α) (session : Session) : Except AccessError α × Session :=
  action session

def note (event : Event) : Access Unit := fun session => (.ok (), session.write (.event event))

/-- Let the store answer a call, unless its collection is unavailable. -/
def perform {Answer : Type} (call : Call Answer) : Access Answer := fun session =>
  if call.request.collection ∈ session.store.unavailable then
    (.error (.unavailable call.request.collection), session)
  else
    let (answer, store) := session.store.answer call
    (.ok answer, { session with store })

def start {Answer : Type} (call : Call Answer) : Access Unit :=
  note (.start call.request.collection)

def run {Answer : Type} (call : Call Answer) : Access Answer := do
  note (.run call.request.collection)
  perform call

/-- Answering a call in a session writes the entries of the attempt. -/
theorem run_eq_attempt {Answer : Type} (call : Call Answer) (session : Session) :
    (run call).outcome session =
      ((session.store.attempt call).2, session.writeAll (session.store.attempt call).1) := by
  by_cases refused : call.request.collection ∈ session.store.unavailable
  · simp [outcome, run, note, perform, Store.attempt, Session.writeAll, Session.write, refused,
      bind, ExceptT.bind, ExceptT.mk, ExceptT.bindCont, StateT.bind]
  · simp [outcome, run, note, perform, Store.attempt, Session.writeAll, Session.write, refused,
      Store.answer, bind, ExceptT.bind, ExceptT.mk, ExceptT.bindCont, StateT.bind]

end Access

/-- How store calls complete. -/
inductive Pace where
  /-- At once, so that everything happens in sequence. -/
  | direct
  /-- After a pause, in which calls that do not depend on each other are made. -/
  | interleaved
  deriving DecidableEq, Repr

def Access.call {Answer : Type} (pace : Pace) (call : Call Answer) : Access Answer :=
  match pace with
  | .direct => perform call
  | .interleaved => do
      start call
      run call

end RecordGraph
