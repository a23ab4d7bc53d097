/-!
# Operators

A criterion names its operator by a token.  Several tokens share one operator,
and a leading bar moves a criterion into the group of alternatives.  Every
operator but equality has a key of its own in store filters.
-/

namespace RecordGraph

/-- A comparison that a criterion can ask for. -/
inductive Operator where
  | equal
  | notEqual
  | greater
  | greaterOrEqual
  | less
  | lessOrEqual
  | member
  | notMember
  deriving DecidableEq, Repr

namespace Operator

def table : List (String × Operator) :=
  [("==", .equal), ("===", .equal), ("contains", .equal), ("!=", .notEqual), ("!==", .notEqual),
    ("notContains", .notEqual), (">", .greater), (">=", .greaterOrEqual), ("<", .less),
    ("<=", .lessOrEqual), ("in", .member), ("notIn", .notMember)]

def tokens : List String := table.map Prod.fst

def ofToken? (token : String) : Option Operator := table.lookup token

/-- The key of an operator in store filters; equality is written as a bare
value and has none. -/
def key? : Operator → Option String
  | .equal => none
  | .notEqual => some "$ne"
  | .greater => some "$gt"
  | .greaterOrEqual => some "$gte"
  | .less => some "$lt"
  | .lessOrEqual => some "$lte"
  | .member => some "$in"
  | .notMember => some "$nin"

end Operator

/-- What a token asks for: an operator, on its own or as an alternative. -/
structure Comparator where
  operator : Operator
  /-- Whether the criterion belongs to the group of alternatives. -/
  alternative : Bool
  deriving DecidableEq, Repr

/-- The characters of a token after the bar that marks an alternative. -/
def afterBar? : List Char → Option (List Char)
  | '|' :: rest => some rest
  | _ => none

/-- The comparator of a token; unknown tokens have none. -/
def Comparator.ofToken? (token : String) : Option Comparator :=
  match afterBar? token.toList with
  | some plain => (Operator.ofToken? (String.ofList plain)).map (⟨·, true⟩)
  | none => (Operator.ofToken? token).map (⟨·, false⟩)

end RecordGraph
