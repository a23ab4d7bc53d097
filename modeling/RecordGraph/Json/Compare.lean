import RecordGraph.Json.Value

/-!
# Loose equality and order of values

Two numbers compare by numeric value whatever their forms; all other values are
equal when their contents are.  Numbers, strings and booleans are ordered among
their own kind.  Sorting extends this to all values and to missing ones by the
rank of their kinds.
-/

namespace RecordGraph

namespace Value

/-- Loose equality: two numbers by value, all else by content. -/
def equal : Value → Value → Bool
  | .number left, .number right => left.equal right
  | left, right => left.same right

/-- Order of two numbers, two strings or two booleans; other pairs are not
comparable. -/
def compare? : Value → Value → Option Ordering
  | .number left, .number right => some (left.compare right)
  | .string left, .string right => some (Ord.compare left right)
  | .bool left, .bool right => some (Ord.compare left right)
  | _, _ => none

/-- Rank of a possibly missing value in a sorted list: missing and null first,
then numbers, strings, objects, arrays and booleans. -/
def rank : Option Value → Nat
  | none => 0
  | some .null => 0
  | some (.number _) => 1
  | some (.string _) => 2
  | some (.object _) => 3
  | some (.array _) => 4
  | some (.bool _) => 5

/-- Order of possibly missing values in a sorted list: by value if they are
comparable, by rank otherwise. -/
def sortOrder (left right : Option Value) : Ordering :=
  match left, right with
  | some leftValue, some rightValue =>
      (leftValue.compare? rightValue).getD (Ord.compare (rank left) (rank right))
  | _, _ => Ord.compare (rank left) (rank right)

end Value

end RecordGraph
