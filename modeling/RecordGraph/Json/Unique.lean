import RecordGraph.Json.Token

/-!
# Distinct values

A value repeats an earlier one when both have the same compact text, so the form
of numbers and the order of keys count.
-/

namespace RecordGraph

namespace Value

/-- The values whose compact text is neither in `seen` nor that of an earlier
value. -/
def uniqueFrom (seen : List String) : List Value → List Value
  | [] => []
  | value :: rest =>
      if value.compact ∈ seen then uniqueFrom seen rest
      else value :: uniqueFrom (value.compact :: seen) rest

/-- The first occurrences of the values, in order. -/
def unique (values : List Value) : List Value := uniqueFrom [] values

end Value

end RecordGraph
