import RecordGraph.Json.Token

/-!
# Indented text

The layout for readers puts every item and every entry on a line of its own,
indented by two spaces for each level.  Empty arrays and objects stay on one
line.
-/

namespace RecordGraph

namespace Value

def lineBreak (level : Nat) : List Char := '\n' :: List.replicate (2 * level) ' '

mutual

/-- The indented text of a value that starts at the given level. -/
def indented (level : Nat) : Value → List Char
  | .array [] => ['[', ']']
  | .array (first :: rest) =>
      '[' :: (indentedItems (level + 1) (first :: rest) ++ lineBreak level ++ [']'])
  | .object [] => ['\x7b', '\x7d']
  | .object (first :: rest) =>
      '\x7b' :: (indentedEntries (level + 1) (first :: rest) ++ lineBreak level ++ ['\x7d'])
  | value => value.compactChars

def indentedItems (level : Nat) : List Value → List Char
  | [] => []
  | [item] => lineBreak level ++ item.indented level
  | item :: next :: rest =>
      lineBreak level ++ item.indented level ++ ',' :: indentedItems level (next :: rest)

def indentedEntries (level : Nat) : List (String × Value) → List Char
  | [] => []
  | [(key, value)] => lineBreak level ++ quotedText key ++ [':', ' '] ++ value.indented level
  | (key, value) :: next :: rest =>
      lineBreak level ++ quotedText key ++ [':', ' '] ++ value.indented level ++
        ',' :: indentedEntries level (next :: rest)

end

def layout (value : Value) : String := String.ofList (value.indented 0)

end Value

end RecordGraph
