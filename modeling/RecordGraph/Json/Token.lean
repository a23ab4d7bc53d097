import RecordGraph.Json.Value
import RecordGraph.Number.Text

/-!
# JSON tokens and compact text

A value is written as a sequence of tokens, and its compact text is the texts of
these tokens one after the other, without any space.  Messages embed this text,
and equal texts are what makes two values repeats of each other.
-/

namespace RecordGraph

/-- A lexical unit of JSON text.  A numeral too large for a double spells no
number, and a text with a lone surrogate spells no string. -/
inductive Token where
  | openArray
  | closeArray
  | openObject
  | closeObject
  | comma
  | colon
  | null
  | bool (truth : Bool)
  | number (spelled : Option Number)
  | string (spelled : Option String)
  deriving DecidableEq, Repr

/-! ## Text of tokens -/

/-- The hexadecimal digit of a number below sixteen, in lower case. -/
def hexDigit (value : Nat) : Char :=
  if value < 10 then Char.ofNat (48 + value) else Char.ofNat (87 + value)

/-- How a character is written inside a string: quotes, backslashes and control
characters are escaped, every other character stands for itself. -/
def escapedChar (char : Char) : List Char :=
  if char = '"' then ['\\', '"']
  else if char = '\\' then ['\\', '\\']
  else if char = '\x08' then ['\\', 'b']
  else if char = '\x09' then ['\\', 't']
  else if char = '\x0a' then ['\\', 'n']
  else if char = '\x0c' then ['\\', 'f']
  else if char = '\x0d' then ['\\', 'r']
  else if char.toNat < 32 then
    ['\\', 'u', '0', '0', hexDigit (char.toNat / 16), hexDigit (char.toNat % 16)]
  else [char]

def quotedText (text : String) : List Char :=
  '"' :: (text.toList.flatMap escapedChar ++ ['"'])

def Token.text : Token → List Char
  | .openArray => ['[']
  | .closeArray => [']']
  | .openObject => ['\x7b']
  | .closeObject => ['\x7d']
  | .comma => [',']
  | .colon => [':']
  | .null => ['n', 'u', 'l', 'l']
  | .bool true => ['t', 'r', 'u', 'e']
  | .bool false => ['f', 'a', 'l', 's', 'e']
  | .number spelled => (spelled.map Number.text).getD []
  | .string spelled => (spelled.map quotedText).getD []

/-! ## Tokens of values -/

namespace Value

mutual

def tokens : Value → List Token
  | .null => [.null]
  | .bool truth => [.bool truth]
  | .number value => [.number (some value)]
  | .string text => [.string (some text)]
  | .array items => .openArray :: (itemTokens items ++ [.closeArray])
  | .object entries => .openObject :: (entryTokens entries ++ [.closeObject])

/-- The tokens of the items of an array, with commas between them. -/
def itemTokens : List Value → List Token
  | [] => []
  | [item] => item.tokens
  | item :: next :: rest => item.tokens ++ .comma :: itemTokens (next :: rest)

/-- The tokens of the entries of an object, with commas between them. -/
def entryTokens : List (String × Value) → List Token
  | [] => []
  | [(key, value)] => .string (some key) :: .colon :: value.tokens
  | (key, value) :: next :: rest =>
      .string (some key) :: .colon :: (value.tokens ++ .comma :: entryTokens (next :: rest))

end

def compactChars (value : Value) : List Char := value.tokens.flatMap Token.text

def compact (value : Value) : String := String.ofList value.compactChars

end Value

end RecordGraph
