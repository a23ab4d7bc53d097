import RecordGraph.Query.Count
import RecordGraph.Query.Selection

/-!
# Options of a query

Beside its filter a query has options: an ordering, a number of records to skip
and a limit.  The ordering is brought into the form of field and direction
pairs; entries of any other shape are kept and ignored.
-/

namespace RecordGraph

/-- The options of a query. -/
structure QueryOptions where
  sort : Option Value
  skip : Option Count
  limit : Option Count
  deriving DecidableEq, Repr

namespace QueryOptions

def none : QueryOptions := ⟨.none, .none, .none⟩

def isEmpty (options : QueryOptions) : Bool :=
  options.sort.isNone && options.skip.isNone && options.limit.isNone

end QueryOptions

/-! ## Compiling -/

namespace Selection

def truthyAt? (selection : Selection) (key : String) : Option Value :=
  (selection.get? key).filter Value.truthy

def ascendingPair (field : String) : Value := .array [.string field, .string "asc"]

/-- An entry of an ordering: a bare field gets the default direction. -/
def normalEntry : Value → Value
  | .string field => ascendingPair field
  | other => other

/-- The ordering as a list of entries; other shapes are kept. -/
def normalOrder : Value → Value
  | .string field => .array [ascendingPair field]
  | .array entries => .array (entries.map normalEntry)
  | other => other

/-- The options of a query.  Of two keys for the same option the first truthy one
counts. -/
def options (selection : Selection) : QueryOptions where
  sort := ((selection.truthyAt? "orderBy").or (selection.truthyAt? "sort")).map normalOrder
  skip := ((selection.truthyAt? "skip").or (selection.truthyAt? "offset")).bind Value.count?
  limit := (selection.truthyAt? "limit").bind Value.count?

end Selection

/-! ## Sort keys -/

/-- A direction of sorting. -/
inductive SortDirection where
  | ascending
  | descending
  deriving DecidableEq, Repr

namespace SortDirection

def name : SortDirection → String
  | .ascending => "asc"
  | .descending => "desc"

def lowered (text : String) : List Char := text.toList.map Char.toLower

/-- The direction that a value asks for: descending for the words `desc` and
`descending` in any case and for negative numbers, ascending otherwise. -/
def ofValue : Value → SortDirection
  | .string text =>
      if lowered text = "desc".toList ∨ lowered text = "descending".toList then .descending
      else .ascending
  | .number value => if value.isBelowZero then .descending else .ascending
  | _ => .ascending

end SortDirection

/-- The field and direction of an ordering entry, if it has the shape of one. -/
def sortKey? : Value → Option (String × SortDirection)
  | .array [.string field] => some (field, .ascending)
  | .array (.string field :: direction :: _) => some (field, .ofValue direction)
  | _ => none

def QueryOptions.sortKeys (options : QueryOptions) : List (String × SortDirection) :=
  match options.sort with
  | some (.array entries) => entries.filterMap sortKey?
  | _ => []

end RecordGraph
