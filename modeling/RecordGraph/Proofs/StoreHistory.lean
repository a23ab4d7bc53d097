import Mathlib.Data.List.DropRight
import RecordGraph.Store

/-!
# Histories of a store

A store is used by any sequence of writes, reads and clearings of its log.  What its collections
hold afterwards depends on the writes alone, and its log on the reads since it was last cleared;
both are told from the history without the store.
-/

namespace RecordGraph

/-! ## Operations -/

/-- Something that is done to a store. -/
inductive StoreOperation where
  | insert (collection : String) (record : Document)
  | insertMany (collection : String) (records : List Document)
  | load (data : Value)
  | fetch (collection : String) (query : CompiledQuery) (projection : Option Document)
  | fetchOne (collection : String) (filter : Document) (projection : Option Document)
  | count (collection : String) (query : CompiledQuery)
  | clearLog
  deriving DecidableEq, Repr

namespace Store

/-- The store after an operation, whether it succeeds or fails. -/
def perform (store : Store) : StoreOperation → Store
  | .insert collection record => store.insert collection record
  | .insertMany collection records => store.insertMany collection records
  | .load data => (store.load data).2
  | .fetch collection query projection => (store.answer (.fetch collection query projection)).2
  | .fetchOne collection filter projection =>
      (store.answer (.fetchOne collection filter projection)).2
  | .count collection query => (store.answer (.count collection query)).2
  | .clearLog => store.clearLog

/-- The store after operations one after the other. -/
def run (store : Store) (operations : List StoreOperation) : Store :=
  operations.foldl perform store

end Store

/-! ## What operations do, told without a store -/

namespace Value

/-- Whether a value can be loaded as a collection: an array with nothing but objects. -/
def isCollection : Value → Bool
  | .array items => items.all fun item => item.kind = .object
  | _ => false

/-- The objects in an array. -/
def documents : Value → List Document
  | .array items => items.filterMap document?
  | _ => []

end Value

namespace StoreOperation

/-- The records that an operation appends, each with its collection.  Of the data that is loaded
they are those of the collections before the first bad one. -/
def appended : StoreOperation → List (String × Document)
  | .insert collection record => [(collection, record)]
  | .insertMany collection records => records.map fun record => (collection, record)
  | .load (.object entries) =>
      (entries.takeWhile fun entry => entry.2.isCollection).flatMap fun entry =>
        entry.2.documents.map fun record => (entry.1, record)
  | _ => []

/-- The request that a read makes. -/
def request? : StoreOperation → Option Request
  | .fetch collection query projection =>
      some (.fetch collection query.filter query.options projection)
  | .fetchOne collection filter _ => some (.fetchOne collection filter)
  | .count collection query => some (.count collection query.filter)
  | _ => none

end StoreOperation

/-- Those of the appended records that belong to a collection. -/
def recordsIn (collection : String) (appended : List (String × Document)) : List Document :=
  appended.filterMap fun entry => if entry.1 = collection then some entry.2 else none

/-! ## Loading -/

theorem recordsIn_append (collection : String) (first second : List (String × Document)) :
    recordsIn collection (first ++ second) =
      recordsIn collection first ++ recordsIn collection second :=
  List.filterMap_append

theorem recordsIn_map (collection name : String) (records : List Document) :
    recordsIn collection (records.map fun record => (name, record)) =
      if name = collection then records else [] := by
  rw [recordsIn, List.filterMap_map]
  split
  · rename_i same
    simp [same]
  · rename_i different
    simp [different]

theorem mapM_eq_filterMap {α β : Type} (read : α → Option β) (items : List α) :
    items.mapM read =
      if items.all fun item => (read item).isSome then some (items.filterMap read) else none := by
  induction items with
  | nil => rfl
  | cons item rest inductionHypothesis =>
      rw [List.mapM_cons, inductionHypothesis]
      cases found : read item with
      | none => simp [found]
      | some result =>
          rw [List.all_cons, found, Option.isSome_some, Bool.true_and,
            List.filterMap_cons_some found]
          split <;> rfl

theorem Value.isCollection_array (items : List Value) :
    (array items).isCollection = items.all fun item => item.document?.isSome := by
  rw [isCollection]
  congr 1
  funext item
  cases item <;> rfl

namespace Store

theorem recordsOf?_of_isCollection {value : Value} (good : value.isCollection = true)
    (collection : String) : recordsOf? collection value = .ok value.documents := by
  cases value with
  | array items =>
      rw [Value.isCollection_array] at good
      rw [recordsOf?, mapM_eq_filterMap, if_pos good]
      rfl
  | _ => cases good

theorem recordsOf?_of_not_isCollection {value : Value} (bad : value.isCollection = false)
    (collection : String) : ∃ error, recordsOf? collection value = .error error := by
  cases value with
  | array items =>
      rw [Value.isCollection_array] at bad
      rw [recordsOf?, mapM_eq_filterMap, bad]
      exact ⟨_, rfl⟩
  | _ => exact ⟨_, rfl⟩

theorem appended_load_cons (name : String) (value : Value) (rest : List (String × Value)) :
    (StoreOperation.load (.object ((name, value) :: rest))).appended =
      if value.isCollection then
        value.documents.map (fun record => (name, record)) ++
          (StoreOperation.load (.object rest)).appended
      else [] := by
  cases good : value.isCollection <;> simp [StoreOperation.appended, good]

theorem records_insertMany (store : Store) (name : String) (added : List Document)
    (collection : String) :
    (store.insertMany name added).records collection =
      store.records collection ++
        recordsIn collection (added.map fun record => (name, record)) := by
  rw [recordsIn_map]
  split
  · rename_i same
    rw [same]
    exact records_insertMany_self store collection added
  · rename_i different
    rw [List.append_nil]
    exact records_insertMany_of_ne (Ne.symm different) store added

/-- Loading keeps what a collection held and appends the records of the data, up to the first bad
collection. -/
theorem records_loadCollections (store : Store) (entries : List (String × Value))
    (collection : String) :
    (store.loadCollections entries).2.records collection =
      store.records collection ++
        recordsIn collection (StoreOperation.load (.object entries)).appended := by
  induction entries generalizing store with
  | nil => simp [loadCollections, StoreOperation.appended, recordsIn]
  | cons entry rest inductionHypothesis =>
      rcases entry with ⟨name, value⟩
      rw [appended_load_cons, loadCollections]
      cases good : value.isCollection with
      | true =>
          rw [recordsOf?_of_isCollection good, if_pos rfl, recordsIn_append, ← List.append_assoc,
            ← records_insertMany]
          exact inductionHypothesis _
      | false =>
          obtain ⟨error, refused⟩ := recordsOf?_of_not_isCollection good name
          rw [refused]
          exact (List.append_nil _).symm

theorem log_loadCollections (store : Store) (entries : List (String × Value)) :
    (store.loadCollections entries).2.log = store.log := by
  induction entries generalizing store with
  | nil => rfl
  | cons entry rest inductionHypothesis =>
      rw [loadCollections]
      split
      · rfl
      · exact inductionHypothesis _

/-- Loading succeeds if no collection is bad. -/
theorem loadCollections_eq_ok_iff (store : Store) (entries : List (String × Value)) :
    (store.loadCollections entries).1 = .ok () ↔
      ∀ entry ∈ entries, entry.2.isCollection = true := by
  induction entries generalizing store with
  | nil => simp [loadCollections]
  | cons entry rest inductionHypothesis =>
      rcases entry with ⟨name, value⟩
      rw [List.forall_mem_cons, loadCollections]
      cases good : value.isCollection with
      | true =>
          rw [recordsOf?_of_isCollection good, and_iff_right rfl]
          exact inductionHypothesis _
      | false =>
          obtain ⟨error, refused⟩ := recordsOf?_of_not_isCollection good name
          rw [refused]
          simp

/-! ## One operation -/

theorem records_perform (store : Store) (operation : StoreOperation) (collection : String) :
    (store.perform operation).records collection =
      store.records collection ++ recordsIn collection operation.appended := by
  cases operation with
  | insert name record => exact records_insertMany store name [record] collection
  | insertMany name records => exact records_insertMany store name records collection
  | load data =>
      cases data with
      | object entries => exact records_loadCollections store entries collection
      | _ => exact (List.append_nil _).symm
  | _ => exact (List.append_nil _).symm

theorem log_perform (store : Store) (operation : StoreOperation) :
    (store.perform operation).log =
      if operation = .clearLog then [] else store.log ++ operation.request?.toList := by
  cases operation with
  | load data =>
      rw [if_neg (by simp)]
      cases data with
      | object entries =>
          exact (log_loadCollections store entries).trans (List.append_nil _).symm
      | _ => exact (List.append_nil _).symm
  | insert name record => exact (List.append_nil _).symm
  | insertMany name records => exact (List.append_nil _).symm
  | _ => rfl

/-- A read does nothing to the collections. -/
theorem collections_perform_of_request {operation : StoreOperation}
    (reads : operation.request?.isSome = true) (store : Store) :
    (store.perform operation).collections = store.collections := by
  cases operation <;> first | rfl | cases reads

theorem collections_loadCollections_congr {store other : Store}
    (alike : store.collections = other.collections) (entries : List (String × Value)) :
    (store.loadCollections entries).2.collections =
      (other.loadCollections entries).2.collections := by
  induction entries generalizing store other with
  | nil => exact alike
  | cons entry rest inductionHypothesis =>
      rw [loadCollections, loadCollections]
      split
      · exact alike
      · apply inductionHypothesis
        simp only [insertMany, alike]

/-- What an operation does to the collections depends on nothing but them. -/
theorem collections_perform_congr {store other : Store}
    (alike : store.collections = other.collections) (operation : StoreOperation) :
    (store.perform operation).collections = (other.perform operation).collections := by
  cases operation with
  | insert name record => simp only [perform, insert, insertMany, alike]
  | insertMany name records => simp only [perform, insertMany, alike]
  | load data =>
      cases data with
      | object entries => exact collections_loadCollections_congr alike entries
      | _ => exact alike
  | _ => exact alike

/-! ## Whole histories -/

/-- Each operation of a history appends its records after all earlier ones. -/
theorem records_run (store : Store) (operations : List StoreOperation) (collection : String) :
    (store.run operations).records collection =
      store.records collection ++
        recordsIn collection (operations.flatMap StoreOperation.appended) := by
  induction operations generalizing store with
  | nil => exact (List.append_nil _).symm
  | cons operation rest inductionHypothesis =>
      rw [List.flatMap_cons, recordsIn_append, ← List.append_assoc, ← records_perform]
      exact inductionHypothesis (store.perform operation)

/-- Reads can be left out of a history without a change to the collections. -/
theorem collections_run_congr {store other : Store}
    (alike : store.collections = other.collections) (operations : List StoreOperation) :
    (store.run operations).collections =
      (other.run (operations.filter fun operation => operation.request?.isNone)).collections := by
  induction operations generalizing store other with
  | nil => exact alike
  | cons operation rest inductionHypothesis =>
      cases read : operation.request? with
      | none =>
          rw [List.filter_cons_of_pos (by rw [read]; rfl)]
          exact inductionHypothesis (collections_perform_congr alike operation)
      | some request =>
          rw [List.filter_cons_of_neg (by rw [read]; exact Bool.false_ne_true)]
          apply inductionHypothesis
          rw [collections_perform_of_request (by rw [read]; rfl), alike]

/-- The log of a store that began empty has the requests since it was last cleared. -/
theorem log_run_empty (operations : List StoreOperation) :
    (empty.run operations).log =
      (operations.rtakeWhile (· ≠ .clearLog)).filterMap StoreOperation.request? := by
  -- From the end, since the last clearing decides what the log still has.
  induction operations using List.reverseRecOn with
  | nil => rfl
  | append_singleton earlier operation inductionHypothesis =>
      have last : empty.run (earlier ++ [operation]) = (empty.run earlier).perform operation :=
        List.foldl_concat ..
      rw [last, log_perform, inductionHypothesis, List.rtakeWhile_concat]
      by_cases clears : operation = .clearLog
      · simp [clears]
      · rw [if_neg clears, if_pos (by simpa using clears), List.filterMap_append]
        cases read : operation.request? <;> simp [read]

end Store

/-- Whatever is done to a store that began empty, each collection holds the records that were
appended to it, in the order of the operations and of the records in them; reads can be left out
without a change; and the log has the requests of the reads since it was last cleared.  Of the
data that is loaded the collections before the first bad one count, and loading succeeds if the
data is an object with no bad one. -/
theorem store_holds_what_was_appended (operations : List StoreOperation) :
    (∀ collection, (Store.empty.run operations).records collection =
      recordsIn collection (operations.flatMap StoreOperation.appended)) ∧
    (Store.empty.run operations).collections =
      (Store.empty.run
        (operations.filter fun operation => operation.request?.isNone)).collections ∧
    (Store.empty.run operations).log =
      (operations.rtakeWhile (· ≠ .clearLog)).filterMap StoreOperation.request? ∧
    ∀ data, ((Store.empty.run operations).load data).1 = .ok () ↔
      ∃ entries, data = .object entries ∧ ∀ entry ∈ entries, entry.2.isCollection = true := by
  refine ⟨?_, Store.collections_run_congr rfl operations, Store.log_run_empty operations, ?_⟩
  · intro collection
    exact Store.records_run .empty operations collection
  · intro data
    cases data with
    | object entries =>
        rw [Store.load, Store.loadCollections_eq_ok_iff]
        simp only [Value.object.injEq, exists_eq_left']
    | _ => simp [Store.load]

/-- The records before and after a bad collection that is loaded between two inserts. -/
example :
    let store := Store.empty.run
      [.insert "a" [("n", .null)],
        .load (.object
          [("a", .array [.object []]), ("b", .array [.object [], .null]), ("c", .array [.object []])]),
        .fetchOne "a" [] none, .clearLog, .count "b" Selection.empty.compile,
        .insert "b" [("n", .null)]]
    store.records "a" = [[("n", .null)], []] ∧ store.records "b" = [[("n", .null)]] ∧
      store.records "c" = [] ∧ store.log = [.count "b" []] := by
  decide +kernel

end RecordGraph
