import RecordGraph.Store.Read

/-!
# The store

A store keeps collections of records in memory, in the order in which they were
added, and logs every request that it answers.  Collections can be marked
unavailable; a call on such a collection fails and is not logged.
-/

namespace RecordGraph

/-- A store of records. -/
structure Store where
  /-- The collections that hold records. -/
  collections : List (String × List Document)
  /-- The collections on which every call fails. -/
  unavailable : List String
  /-- The requests answered so far, in order. -/
  log : List Request
  deriving DecidableEq, Repr

/-- Why data cannot be loaded. -/
inductive DataError where
  /-- The data is not an object of collections. -/
  | notCollections
  /-- A collection is not an array. -/
  | notRecords (collection : String)
  /-- A collection contains something other than an object. -/
  | notARecord (collection : String)
  deriving DecidableEq, Repr

def DataError.message : DataError → String
  | .notCollections => "invalid data: store data must be an object of collections"
  | .notRecords collection =>
      "invalid data: collection " ++ collection ++ " must be an array of records"
  | .notARecord collection =>
      "invalid data: collection " ++ collection ++ " contains a non-object record"

namespace Store

def empty : Store := ⟨[], [], []⟩

/-- The records of a collection; one that was never written has none. -/
def records (store : Store) (collection : String) : List Document :=
  (store.collections.lookup collection).getD []

/-! ## Writing -/

def appendTo (collection : String) (added : List Document) :
    List (String × List Document) → List (String × List Document)
  | [] => [(collection, added)]
  | (name, held) :: rest =>
      if name = collection then (name, held ++ added) :: rest
      else (name, held) :: appendTo collection added rest

def insertMany (store : Store) (collection : String) (records : List Document) : Store :=
  { store with collections := appendTo collection records store.collections }

/-- The records added to a collection come after those it held. -/
theorem lookup_appendTo_self (collection : String) (added : List Document)
    (collections : List (String × List Document)) :
    ((appendTo collection added collections).lookup collection).getD [] =
      (collections.lookup collection).getD [] ++ added := by
  induction collections with
  | nil => simp [appendTo]
  | cons entry rest inductionHypothesis =>
      rcases entry with ⟨name, held⟩
      by_cases sameName : name = collection
      · simp [appendTo, sameName]
      · have differs : (collection == name) = false := by
          simpa using fun equality : collection = name => sameName equality.symm
        simpa [appendTo, sameName, List.lookup_cons, differs] using inductionHypothesis

/-- Adding to a collection leaves every other collection alone. -/
theorem lookup_appendTo_of_ne {collection other : String} (different : other ≠ collection)
    (added : List Document) (collections : List (String × List Document)) :
    (appendTo collection added collections).lookup other = collections.lookup other := by
  induction collections with
  | nil =>
      have differs : (other == collection) = false := by simpa using different
      simp [appendTo, List.lookup_cons, differs]
  | cons entry rest inductionHypothesis =>
      rcases entry with ⟨name, held⟩
      by_cases sameName : name = collection
      · have differs : (other == collection) = false := by simpa using different
        simp [appendTo, sameName, List.lookup_cons, differs]
      · simp [appendTo, sameName, List.lookup_cons, inductionHypothesis]

theorem records_insertMany_self (store : Store) (collection : String)
    (added : List Document) :
    (store.insertMany collection added).records collection =
      store.records collection ++ added :=
  lookup_appendTo_self collection added store.collections

theorem records_insertMany_of_ne {collection other : String} (different : other ≠ collection)
    (store : Store) (added : List Document) :
    (store.insertMany collection added).records other = store.records other := by
  simp [records, insertMany, lookup_appendTo_of_ne different]

def insert (store : Store) (collection : String) (record : Document) : Store :=
  store.insertMany collection [record]

def recordsOf? (collection : String) : Value → Except DataError (List Document)
  | .array items =>
      match items.mapM Value.document? with
      | some records => .ok records
      | none => .error (.notARecord collection)
  | _ => .error (.notRecords collection)

/-- Load collections one after the other, up to the first bad one. -/
def loadCollections (store : Store) : List (String × Value) → Except DataError Unit × Store
  | [] => (.ok (), store)
  | (collection, value) :: rest =>
      match recordsOf? collection value with
      | .error error => (.error error, store)
      | .ok records => (store.insertMany collection records).loadCollections rest

/-- Load an object of collections.  The collections before a bad one stay
loaded. -/
def load (store : Store) (data : Value) : Except DataError Unit × Store :=
  match data with
  | .object entries => store.loadCollections entries
  | _ => (.error .notCollections, store)

/-! ## Reading -/

def answer {Answer : Type} (store : Store) (call : Call Answer) : Answer × Store :=
  (call.answer (store.records call.request.collection),
    { store with log := store.log ++ [call.request] })

def clearLog (store : Store) : Store := { store with log := [] }

end Store

end RecordGraph
