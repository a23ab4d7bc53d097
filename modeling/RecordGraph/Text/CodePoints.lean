/-!
# Sets of code points

A set of characters is listed as strides, from a first to a last code point in
equal steps, because letters that alternate between two cases stand at every
second place.
-/

namespace RecordGraph

/-- The code points from a first to a last one, as many apart as the step says. -/
abbrev Stride := Nat × Nat × Nat

def onStride (code : Nat) (stride : Stride) : Bool :=
  stride.1 ≤ code && code ≤ stride.2.1 && (code - stride.1) % stride.2.2 == 0

def onStrides (strides : List Stride) (char : Char) : Bool :=
  strides.any (onStride char.toNat)

end RecordGraph
