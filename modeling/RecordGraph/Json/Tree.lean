import RecordGraph.Json.Lexer

/-!
# JSON text as a tree

A tree keeps what the text says before it is read as a value: repeated keys stay
apart, and numerals and strings that spell nothing are kept as such.  Readers of
structures look at trees, because they ignore parts that a value may not have.
-/

namespace RecordGraph

/-- The syntax tree of a JSON text. -/
inductive Tree where
  | null
  | bool (truth : Bool)
  | number (spelled : Option Number)
  | string (spelled : Option String)
  | array (items : List Tree)
  | object (entries : List (Option String × Tree))
  deriving Inhabited, Repr

/-! ## Reading tokens -/

/-- A container that is still open. -/
inductive Frame where
  /-- An array with its items so far, last one first. -/
  | array (reversed : List Tree)
  /-- An object with its entries so far, last one first, and the key whose value
  comes next. -/
  | object (reversed : List (Option String × Tree)) (key : Option String)
  deriving Repr

/-- What the reader expects next; the open containers are listed innermost
first. -/
inductive Reader where
  | value (stack : List Frame)
  | firstItem (stack : List Frame)
  | firstKey (stack : List Frame)
  | nextKey (entries : List (Option String × Tree)) (stack : List Frame)
  | colon (key : Option String) (entries : List (Option String × Tree)) (stack : List Frame)
  | after (tree : Tree) (stack : List Frame)
  deriving Repr

namespace Reader

def start : Reader := .value []

def stepValue? (stack : List Frame) : Token → Option Reader
  | .null => some (.after .null stack)
  | .bool truth => some (.after (.bool truth) stack)
  | .number spelled => some (.after (.number spelled) stack)
  | .string spelled => some (.after (.string spelled) stack)
  | .openArray => some (.firstItem stack)
  | .openObject => some (.firstKey stack)
  | _ => none

def stepAfter? (tree : Tree) : List Frame → Token → Option Reader
  | .array reversed :: stack, .comma => some (.value (.array (tree :: reversed) :: stack))
  | .array reversed :: stack, .closeArray =>
      some (.after (.array (tree :: reversed).reverse) stack)
  | .object reversed key :: stack, .comma => some (.nextKey ((key, tree) :: reversed) stack)
  | .object reversed key :: stack, .closeObject =>
      some (.after (.object ((key, tree) :: reversed).reverse) stack)
  | _, _ => none

def step? : Reader → Token → Option Reader
  | .value stack, token => stepValue? stack token
  | .firstItem stack, .closeArray => some (.after (.array []) stack)
  | .firstItem stack, token => stepValue? (.array [] :: stack) token
  | .firstKey stack, .closeObject => some (.after (.object []) stack)
  | .firstKey stack, .string spelled => some (.colon spelled [] stack)
  | .nextKey entries stack, .string spelled => some (.colon spelled entries stack)
  | .colon key entries stack, .colon => some (.value (.object entries key :: stack))
  | .after tree stack, token => stepAfter? tree stack token
  | _, _ => none

def finish? : Reader → Option Tree
  | .after tree [] => some tree
  | _ => none

end Reader

namespace Tree

def ofTokens? (tokens : List Token) : Option Tree :=
  (tokens.foldlM Reader.step? Reader.start).bind Reader.finish?

def parse? (text : String) : Option Tree :=
  (Lexer.tokens? text.toList).bind ofTokens?

/-! ## Trees and values -/

mutual

/-- The value that a tree spells, when it nests at most `depth` containers and
every numeral and string in it spells something.  The last value of a repeated
key wins, at the position of the first. -/
def toValue? (depth : Nat) : Tree → Option Value
  | .null => some .null
  | .bool truth => some (.bool truth)
  | .number spelled => spelled.map .number
  | .string spelled => spelled.map .string
  | .array items =>
      match depth with
      | 0 => none
      | below + 1 => (toValues? below items).map .array
  | .object entries =>
      match depth with
      | 0 => none
      | below + 1 => (toEntries? below entries).map fun found => .object (Document.ofEntries found)

def toValues? (depth : Nat) : List Tree → Option (List Value)
  | [] => some []
  | item :: rest =>
      match item.toValue? depth, toValues? depth rest with
      | some value, some values => some (value :: values)
      | _, _ => none

def toEntries? (depth : Nat) : List (Option String × Tree) → Option (List (String × Value))
  | [] => some []
  | (key, tree) :: rest =>
      match key, tree.toValue? depth, toEntries? depth rest with
      | some key, some value, some entries => some ((key, value) :: entries)
      | _, _, _ => none

end

mutual

def ofValue : Value → Tree
  | .null => .null
  | .bool truth => .bool truth
  | .number value => .number (some value)
  | .string text => .string (some text)
  | .array items => .array (ofValues items)
  | .object entries => .object (ofEntries entries)

def ofValues : List Value → List Tree
  | [] => []
  | item :: rest => ofValue item :: ofValues rest

def ofEntries : List (String × Value) → List (Option String × Tree)
  | [] => []
  | (key, value) :: rest => (some key, ofValue value) :: ofEntries rest

end

/-- How many containers may be nested in a JSON text. -/
def depthLimit : Nat := 127

end Tree

def Value.parse? (text : String) : Option Value :=
  (Tree.parse? text).bind (Tree.toValue? Tree.depthLimit)

end RecordGraph
