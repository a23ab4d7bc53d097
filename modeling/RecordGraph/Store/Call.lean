import RecordGraph.Query

/-!
# Store calls

A call reads one collection.  It has a request, which the store logs, and an
answer, which is a function of the records that the collection holds.
-/

namespace RecordGraph

/-- A request as a store logs it. -/
inductive Request where
  /-- A list of records. -/
  | fetch (collection : String) (filter : Document) (options : QueryOptions)
      (projection : Option Document)
  /-- The first record that satisfies a filter. -/
  | fetchOne (collection : String) (filter : Document)
  /-- A number of records. -/
  | count (collection : String) (filter : Document)
  deriving DecidableEq, Repr

namespace Request

def collection : Request → String
  | .fetch collection _ _ _ => collection
  | .fetchOne collection _ => collection
  | .count collection _ => collection

def filter : Request → Document
  | .fetch _ filter _ _ => filter
  | .fetchOne _ filter => filter
  | .count _ filter => filter

end Request

/-- A call with an answer of the given type. -/
structure Call (Answer : Type) where
  request : Request
  /-- The answer, given the records of the collection. -/
  answer : List Document → Answer

end RecordGraph
