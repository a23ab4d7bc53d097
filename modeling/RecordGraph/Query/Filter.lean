import RecordGraph.Query.Operator
import RecordGraph.Query.Selection

/-!
# Filters

A filter is the document that a store matches records against.  Compiling a
selection query gives each field one condition, built from its plain criteria
in order: an equality replaces whatever was demanded before, and any other
operator joins the operators demanded since the last equality.  Criteria marked
as alternatives become the terms of one group, of which a record has to satisfy
at least one.
-/

namespace RecordGraph

/-- The key of the group of alternatives in a filter. -/
def alternativesKey : String := "$or"

/-! ## Criteria -/

/-- The operators that the criteria of a field ask for; a literal asks for
equality. -/
def Value.operands : Value → Document
  | .object entries => entries
  | literal => [("==", literal)]

namespace Selection

/-- The criteria under `where`, if that is an object. -/
def whereFields (selection : Selection) : Document := selection.entries.child "where"

/-- The top-level entries that are criteria: not reserved, and not named under
`where`. -/
def topLevelFields (selection : Selection) : Document :=
  selection.entries.filter fun entry =>
    !isReserved entry.1 && !selection.whereFields.hasKey entry.1

/-- Each field with the operators asked of it, `where` first. -/
def criteria (selection : Selection) : List (String × Document) :=
  (selection.whereFields ++ selection.topLevelFields).map fun entry =>
    (entry.1, entry.2.operands)

end Selection

/-! ## Conditions -/

/-- What is demanded of one field so far. -/
inductive Demand where
  /-- Nothing yet. -/
  | anything
  /-- Equality with a value. -/
  | equals (value : Value)
  /-- A document of operators. -/
  | operators (document : Document)
  deriving DecidableEq, Repr

namespace Demand

def add (demand : Demand) (operator : Operator) (operand : Value) : Demand :=
  match operator.key? with
  | none => .equals operand
  | some key =>
      match demand with
      | .operators document => .operators (document.set key operand)
      | _ => .operators [(key, operand)]

/-- Take a token into account: unknown ones and alternatives demand nothing. -/
def addToken (demand : Demand) (entry : String × Value) : Demand :=
  match Comparator.ofToken? entry.1 with
  | some ⟨operator, false⟩ => demand.add operator entry.2
  | _ => demand

/-- The demand that the tokens of a field make together. -/
def ofTokens (tokens : Document) : Demand := tokens.foldl addToken .anything

def condition? : Demand → Option Value
  | .anything => none
  | .equals value => some value
  | .operators document => some (.object document)

end Demand

def Operator.condition (operator : Operator) (operand : Value) : Value :=
  match operator.key? with
  | none => operand
  | some key => .object [(key, operand)]

def plainConditions (criteria : List (String × Document)) : Document :=
  criteria.filterMap fun entry =>
    (Demand.ofTokens entry.2).condition?.map fun condition => (entry.1, condition)

/-- The term of an alternative; tokens that are none make no term. -/
def alternativeTerm? (field : String) (entry : String × Value) : Option Value :=
  match Comparator.ofToken? entry.1 with
  | some ⟨operator, true⟩ => some (.object [(field, operator.condition entry.2)])
  | _ => none

def alternativeTerms (criteria : List (String × Document)) : List Value :=
  criteria.flatMap fun entry => entry.2.filterMap (alternativeTerm? entry.1)

def Selection.filter (selection : Selection) : Document :=
  let conditions := plainConditions selection.criteria
  let terms := alternativeTerms selection.criteria
  if terms.isEmpty then conditions else conditions.set alternativesKey (.array terms)

end RecordGraph
