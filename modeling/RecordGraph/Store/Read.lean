import RecordGraph.Store.Call
import RecordGraph.Store.Match

/-!
# Reading a collection

A list of records is read in four steps: the records that satisfy the filter in
stored order, a stable sort by the sort keys, the part that skip and limit leave,
and a projection of each record.
-/

namespace RecordGraph

/-! ## Sorting -/

def orderByKey (key : String × SortDirection) (left right : Document) : Ordering :=
  let order := Value.sortOrder (left.read? key.1) (right.read? key.1)
  match key.2 with
  | .ascending => order
  | .descending => order.swap

/-- Order of two records by the first sort key that tells them apart. -/
def orderByKeys (keys : List (String × SortDirection)) (left right : Document) : Ordering :=
  match keys with
  | [] => .eq
  | key :: rest => (orderByKey key left right).then (orderByKeys rest left right)

/-- Records in the order of the sort keys; records that no key tells apart keep
their order. -/
def sortRecords (keys : List (String × SortDirection)) (records : List Document) :
    List Document :=
  records.mergeSort fun left right => (orderByKeys keys left right).isLE

/-! ## Slicing and projecting -/

/-- The part of a list that skip and limit leave. -/
def slice (options : QueryOptions) (records : List Document) : List Document :=
  let kept := records.drop (options.skip.getD 0).toNat
  match options.limit with
  | some limit => kept.take limit.toNat
  | none => kept

/-- Records sorted and cut as the options say. -/
def arrange (options : QueryOptions) (records : List Document) : List Document :=
  slice options (sortRecords options.sortKeys records)

/-- The field that inclusive projections keep unless told otherwise. -/
def storedIdentity : String := "_id"

/-- Whether a projection names fields to keep rather than fields to drop. -/
def isInclusive (projection : Document) : Bool :=
  projection.any fun entry => entry.1 != storedIdentity && entry.2.truthy

def keepsField (projection : Document) (field : String) : Bool :=
  match projection.get? field with
  | some flag => flag.truthy
  | none => !isInclusive projection || field == storedIdentity

/-- The fields of a record that a projection keeps, in stored order. -/
def project (projection : Option Document) (record : Document) : Document :=
  match projection with
  | none => record
  | some fields => if fields.isEmpty then record else record.filter (keepsField fields ·.1)

/-! ## The three reads -/

def selectRecords (filter : Document) (records : List Document) : List Document :=
  records.filter (satisfies · filter)

namespace Call

def fetch (collection : String) (query : CompiledQuery) (projection : Option Document) :
    Call (List Document) where
  request := .fetch collection query.filter query.options projection
  answer records :=
    (arrange query.options (selectRecords query.filter records)).map (project projection)

/-- Read the first record that satisfies a filter. -/
def fetchOne (collection : String) (filter : Document) (projection : Option Document) :
    Call (Option Document) where
  request := .fetchOne collection filter
  answer records := (selectRecords filter records).head?.map (project projection)

/-- Count the records that a list of them would have. -/
def count (collection : String) (query : CompiledQuery) : Call Nat where
  request := .count collection query.filter
  answer records := (arrange query.options (selectRecords query.filter records)).length

end Call

end RecordGraph
