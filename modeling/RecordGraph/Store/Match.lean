import RecordGraph.Json.Compare
import RecordGraph.Path
import RecordGraph.Query.Filter

/-!
# Matching records

A record satisfies a filter when it satisfies every condition in it.  A
condition is either a document of operators or a value that the field must
equal or, as a list, contain.  A missing field is equal to null only and
satisfies no comparison.
-/

namespace RecordGraph

/-! ## One operator -/

/-- Whether a field equals a value or is a list that contains it. -/
def equalsOrContains (field : Option Value) (expected : Value) : Bool :=
  match field with
  | none => expected == .null
  | some (.array items) => (Value.array items).equal expected || items.any (·.equal expected)
  | some value => value.equal expected

/-- Whether a field, or an item of it if it is a list, compares with the operand
as asked. -/
def comparesAny (accept : Ordering → Bool) (field : Option Value) (operand : Value) : Bool :=
  let check (value : Value) : Bool := ((value.compare? operand).map accept).getD false
  match field with
  | none => false
  | some (.array items) => items.any check
  | some value => check value

/-- Whether a field equals or contains one of the listed values. -/
def inList (field : Option Value) (operand : Value) : Bool :=
  match operand with
  | .array candidates => candidates.any (equalsOrContains field)
  | _ => false

/-- Whether a field satisfies an operator of a filter; unknown operators are never
satisfied. -/
def satisfiesOperator (field : Option Value) (key : String) (operand : Value) : Bool :=
  if key = "$eq" then equalsOrContains field operand
  else if key = "$ne" then !equalsOrContains field operand
  else if key = "$gt" then comparesAny Ordering.isGT field operand
  else if key = "$gte" then comparesAny Ordering.isGE field operand
  else if key = "$lt" then comparesAny Ordering.isLT field operand
  else if key = "$lte" then comparesAny Ordering.isLE field operand
  else if key = "$in" then inList field operand
  else if key = "$nin" then !inList field operand
  else false

/-! ## Conditions and filters -/

/-- Whether a text starts with the mark of operator keys. -/
def startsWithDollar (key : String) : Bool := key.toList.head? == some '$'

/-- Whether an object is a document of operators: not empty, with nothing but
operator keys. -/
def isOperatorDocument (entries : Document) : Bool :=
  !entries.isEmpty && entries.all fun entry => startsWithDollar entry.1

def satisfiesCondition (field : Option Value) (condition : Value) : Bool :=
  match condition with
  | .object entries =>
      if isOperatorDocument entries then
        entries.all fun entry => satisfiesOperator field entry.1 entry.2
      else equalsOrContains field condition
  | _ => equalsOrContains field condition

mutual

def satisfies (record : Document) : List (String × Value) → Bool
  | [] => true
  | (key, condition) :: rest =>
      (if key = alternativesKey then satisfiesGroup record condition
        else satisfiesCondition (record.read? key) condition) &&
      satisfies record rest

def satisfiesGroup (record : Document) : Value → Bool
  | .array terms => satisfiesSome record terms
  | _ => false

def satisfiesSome (record : Document) : List Value → Bool
  | [] => false
  | term :: rest => satisfiesTerm record term || satisfiesSome record rest

/-- Whether a record satisfies a term of a group; only objects are filters. -/
def satisfiesTerm (record : Document) : Value → Bool
  | .object filter => satisfies record filter
  | _ => false

end

end RecordGraph
