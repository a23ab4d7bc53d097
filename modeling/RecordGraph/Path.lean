import RecordGraph.Json.Value
import RecordGraph.Text.Split

/-!
# Dotted paths

A path is a text cut into segments at every dot.  Reading follows the segments
through objects by key and through arrays by index; writing creates the objects
that are missing and puts an object in the place of anything else that stands on
the way.
-/

namespace RecordGraph

/-! ## Segments -/

def segments (path : String) : List String :=
  (splitWhere (· == '.') path.toList).map String.ofList

theorem segments_ne_nil (path : String) : segments path ≠ [] := by
  simpa [segments] using splitWhere_ne_nil (· == '.') path.toList

/-- The digits of an array index, after a plus sign if there is one. -/
def indexDigits : List Char → List Char
  | '+' :: rest => rest
  | rest => rest

/-- The array index that a segment spells: decimal digits, possibly after a plus
sign, with a value that fits 64 bits. -/
def index? (segment : String) : Option Nat :=
  let digits := indexDigits segment.toList
  let value := Nat.ofDigitChars 10 digits 0
  if !digits.isEmpty && digits.all Char.isDigit && value < 0x10000000000000000 then some value else none

/-! ## Reading -/

/-- The part of a value that a segment names. -/
def Value.child? : Value → String → Option Value
  | .object entries, segment => entries.lookup segment
  | .array items, segment => (index? segment).bind (items[·]?)
  | _, _ => none

/-- The part of a value that a list of segments leads to. -/
def Value.follow (value : Value) : List String → Option Value
  | [] => some value
  | segment :: rest => (value.child? segment).bind (·.follow rest)

/-- The value at a dotted path, if there is one. -/
def Document.read? (document : Document) (path : String) : Option Value :=
  (Value.object document).follow (segments path)

/-! ## Writing -/

/-- Write a value where a list of segments leads to. -/
def Document.put (document : Document) : List String → Value → Document
  | [], _ => document
  | [last], value => document.set last value
  | head :: next :: rest, value =>
      document.set head (.object ((document.child head).put (next :: rest) value))

def Document.write (document : Document) (path : String) (value : Value) : Document :=
  document.put (segments path) value

end RecordGraph
