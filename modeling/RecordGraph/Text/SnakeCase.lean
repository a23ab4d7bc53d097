import RecordGraph.Text.Alphanumeric
import RecordGraph.Text.LetterCase
import RecordGraph.Text.Split

/-!
# Snake case

A name is cut into words at characters that are neither letters nor digits and
where its letters change case: before a capital that follows a small letter, and
before the last capital of a run that a small letter follows.  The words are
written in lower case with underscores between them.
-/

namespace RecordGraph

/-! ## Words -/

/-- The case of the last cased letter of a word, if there is one. -/
inductive RunCase where
  | none
  | lower
  | upper
  deriving DecidableEq, Repr

/-- The run after one more character; one without case changes nothing. -/
def RunCase.next (run : RunCase) (char : Char) : RunCase :=
  if isLowercase char then .lower else if isUppercase char then .upper else run

/-- Cut a piece of letters and digits where the case changes.  The word under
construction is given by its characters, last one first. -/
def cutAtCase (run : RunCase) (reversed : List Char) : List Char → List (List Char)
  | [] => if reversed.isEmpty then [] else [reversed.reverse]
  | [last] => [(last :: reversed).reverse]
  | char :: next :: rest =>
      if run.next char = .lower ∧ isUppercase next then
        (char :: reversed).reverse :: cutAtCase .none [] (next :: rest)
      else if run = .upper ∧ isUppercase char ∧ isLowercase next then
        reversed.reverse :: cutAtCase .none [char] (next :: rest)
      else
        cutAtCase (run.next char) (char :: reversed) (next :: rest)

def words (name : List Char) : List (List Char) :=
  (splitWhere (fun char => !isAlphanumeric char) name).flatMap (cutAtCase .none [])

/-! ## Writing the words -/

/-- A word in lower case; a sigma at its end takes its final form. -/
def lowercaseWord : List Char → List Char
  | [] => []
  | ['Σ'] => ['ς']
  | char :: rest => toLowercase char ++ lowercaseWord rest

def snakeCase (name : String) : String :=
  String.ofList (['_'].intercalate ((words name.toList).map lowercaseWord))

end RecordGraph
