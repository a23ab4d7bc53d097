import RecordGraph.Json.Value
import RecordGraph.Number.Numeral
import RecordGraph.Text.Blank

/-!
# Counts of records

Pagination accepts a count in several forms: a number is cut to an integer, a
text is read as a decimal number first, and true counts as one.  A negative
number and anything else is no count.
-/

namespace RecordGraph

/-- The count that a double stands for, cut toward zero and to 64 bits. -/
def Double.count? (x : Double) : Option Count :=
  if x.isBelowZero then none else some (Count.ofNat x.floorAbs)

def Value.count? : Value → Option Count
  | .number (.whole value) => value.count?
  | .number (.double value) => value.count?
  | .string text => (Numeral.decimalText? (trimBlank text.toList)).bind Double.count?
  | .bool true => some 1
  | _ => none

end RecordGraph
