import RecordGraph.Json.Token

/-!
# Lexing JSON text

Text is split into tokens one character at a time.  A lexeme that has no end
mark of its own, a numeral or a word, ends with the first character that cannot
continue it.
-/

namespace RecordGraph

/-! ## Strings under construction -/

/-- The part of a string read so far. -/
structure StringDraft where
  /-- The characters so far, last one first. -/
  reversed : List Char
  /-- A high surrogate that still needs its low one. -/
  pending : Option Nat
  /-- Whether every surrogate so far was part of a pair. -/
  paired : Bool
  deriving DecidableEq, Repr

namespace StringDraft

def empty : StringDraft := ⟨[], none, true⟩

/-- Add a character; a surrogate that waits for its pair is then alone. -/
def push (draft : StringDraft) (char : Char) : StringDraft :=
  ⟨char :: draft.reversed, none, draft.paired && draft.pending.isNone⟩

/-- Add a UTF-16 code unit; a high and a low surrogate form one character. -/
def pushUnit (draft : StringDraft) (codeUnit : Nat) : StringDraft :=
  if 0xD800 ≤ codeUnit ∧ codeUnit < 0xDC00 then
    ⟨draft.reversed, some codeUnit, draft.paired && draft.pending.isNone⟩
  else if 0xDC00 ≤ codeUnit ∧ codeUnit < 0xE000 then
    match draft.pending with
    | some high =>
        ⟨Char.ofNat (0x10000 + (high - 0xD800) * 0x400 + (codeUnit - 0xDC00)) :: draft.reversed,
          none, draft.paired⟩
    | none => { draft with paired := false }
  else
    draft.push (Char.ofNat codeUnit)

def finish (draft : StringDraft) : Option String :=
  if draft.paired && draft.pending.isNone then some (String.ofList draft.reversed.reverse)
  else none

end StringDraft

/-! ## The state of the lexer -/

/-- What the lexer is in the middle of. -/
inductive LexerMode where
  /-- Between two lexemes. -/
  | between
  /-- In a numeral, given by its characters, last one first. -/
  | numeral (reversed : List Char)
  /-- In a word, given by its characters, last one first. -/
  | word (reversed : List Char)
  /-- In a string. -/
  | text (draft : StringDraft)
  /-- In a string, after a backslash. -/
  | escape (draft : StringDraft)
  /-- In a string, in a code unit that still lacks some hexadecimal digits. -/
  | codeUnit (draft : StringDraft) (missing : Nat) (value : Nat)
  deriving DecidableEq, Repr

/-- A lexer in the middle of a text. -/
structure Lexer where
  reversed : List Token
  mode : LexerMode
  deriving DecidableEq, Repr

namespace Lexer

def start : Lexer := ⟨[], .between⟩

def emit (lexer : Lexer) (token : Token) : Lexer := ⟨token :: lexer.reversed, .between⟩

def isNumeralChar (char : Char) : Bool :=
  char.isDigit || char = '-' || char = '+' || char = '.' || char = 'e' || char = 'E'

def isSpace (char : Char) : Bool :=
  char = ' ' || char = '\t' || char = '\n' || char = '\r'

def numeralToken? (chars : List Char) : Option Token :=
  (Numeral.scan? chars).bind fun numeral =>
    if numeral.isJson then some (.number (Number.ofNumeral? numeral)) else none

def wordToken? (chars : List Char) : Option Token :=
  if chars = ['n', 'u', 'l', 'l'] then some .null
  else if chars = ['t', 'r', 'u', 'e'] then some (.bool true)
  else if chars = ['f', 'a', 'l', 's', 'e'] then some (.bool false)
  else none

def hexValue? (char : Char) : Option Nat :=
  if char.isDigit then some (char.toNat - 48)
  else if 'a' ≤ char ∧ char ≤ 'f' then some (char.toNat - 87)
  else if 'A' ≤ char ∧ char ≤ 'F' then some (char.toNat - 55)
  else none

def escapedBy? : Char → Option Char
  | '"' => some '"'
  | '\\' => some '\\'
  | '/' => some '/'
  | 'b' => some '\x08'
  | 'f' => some '\x0c'
  | 'n' => some '\n'
  | 'r' => some '\r'
  | 't' => some '\t'
  | _ => none

def begin? (lexer : Lexer) (char : Char) : Option Lexer :=
  if isSpace char then some { lexer with mode := .between }
  else if char = '[' then some (lexer.emit .openArray)
  else if char = ']' then some (lexer.emit .closeArray)
  else if char = '\x7b' then some (lexer.emit .openObject)
  else if char = '\x7d' then some (lexer.emit .closeObject)
  else if char = ',' then some (lexer.emit .comma)
  else if char = ':' then some (lexer.emit .colon)
  else if char = '"' then some { lexer with mode := .text .empty }
  else if char.isDigit || char = '-' then some { lexer with mode := .numeral [char] }
  else if char.isLower then some { lexer with mode := .word [char] }
  else none

def close? (lexer : Lexer) : Option Lexer :=
  match lexer.mode with
  | .between => some lexer
  | .numeral reversed => (numeralToken? reversed.reverse).map lexer.emit
  | .word reversed => (wordToken? reversed.reverse).map lexer.emit
  | _ => none

/-- Read a character inside a string, where control characters are refused. -/
def stepText? (lexer : Lexer) (draft : StringDraft) (char : Char) : Option Lexer :=
  if char = '"' then some (lexer.emit (.string draft.finish))
  else if char = '\\' then some { lexer with mode := .escape draft }
  else if char.toNat < 32 then none
  else some { lexer with mode := .text (draft.push char) }

def stepEscape? (lexer : Lexer) (draft : StringDraft) (char : Char) : Option Lexer :=
  if char = 'u' then some { lexer with mode := .codeUnit draft 4 0 }
  else (escapedBy? char).map fun plain => { lexer with mode := .text (draft.push plain) }

def stepCodeUnit? (lexer : Lexer) (draft : StringDraft) (missing value : Nat) (char : Char) :
    Option Lexer :=
  (hexValue? char).map fun digit =>
    let extended := 16 * value + digit
    if missing ≤ 1 then { lexer with mode := .text (draft.pushUnit extended) }
    else { lexer with mode := .codeUnit draft (missing - 1) extended }

def step? (lexer : Lexer) (char : Char) : Option Lexer :=
  match lexer.mode with
  | .between => lexer.begin? char
  | .numeral reversed =>
      if isNumeralChar char then some { lexer with mode := .numeral (char :: reversed) }
      else lexer.close?.bind (·.begin? char)
  | .word reversed =>
      if char.isLower then some { lexer with mode := .word (char :: reversed) }
      else lexer.close?.bind (·.begin? char)
  | .text draft => lexer.stepText? draft char
  | .escape draft => lexer.stepEscape? draft char
  | .codeUnit draft missing value => lexer.stepCodeUnit? draft missing value char

def finish? (lexer : Lexer) : Option (List Token) :=
  lexer.close?.map (·.reversed.reverse)

def tokens? (text : List Char) : Option (List Token) :=
  (text.foldlM step? start).bind finish?

end Lexer

end RecordGraph
