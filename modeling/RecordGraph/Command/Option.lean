/-!
# Command-line options

Options are written with a long name and two dashes or with a short name and one
dash.  A value is attached to the name, after an equals sign or directly after a
short name, or it is the next argument, which must not look like an option.
Nothing else may stand on the command line, except two dashes at its end.
-/

namespace RecordGraph

/-- An option with a value. -/
structure OptionSpec where
  /-- The long name, without dashes. -/
  long : String
  /-- The short name, if there is one. -/
  short : Option Char
  /-- Whether the option may be given more than once. -/
  repeatable : Bool
  /-- Whether the option has to be given. -/
  required : Bool
  /-- Which values the option takes. -/
  accepts : String → Bool

namespace OptionSpec

/-- An option that takes any value, given at most once. -/
def single (long : String) (short : Option Char) : OptionSpec :=
  ⟨long, short, false, false, fun _ => true⟩

end OptionSpec

/-- An option that an argument names, with the value that is attached to it. -/
structure OptionUse where
  spec : OptionSpec
  attached : Option String

/-! ## Single arguments -/

/-- Cut a text at its first equals sign, if it has one. -/
def cutAtEquals : List Char → List Char × Option (List Char)
  | [] => ([], none)
  | '=' :: rest => ([], some rest)
  | char :: rest =>
      let (name, value) := cutAtEquals rest
      (char :: name, value)

/-- Remove an equals sign at the start of a text. -/
def dropEquals : List Char → List Char
  | '=' :: rest => rest
  | rest => rest

/-- Read an argument that starts with two dashes, given what follows them. -/
def longUse? (specs : List OptionSpec) (rest : List Char) : Option OptionUse :=
  let (name, value) := cutAtEquals rest
  (specs.find? fun spec => spec.long == String.ofList name).map fun spec =>
    ⟨spec, value.map String.ofList⟩

/-- Read an argument that starts with one dash, given its short name and what
follows that. -/
def shortUse? (specs : List OptionSpec) (name : Char) (rest : List Char) : Option OptionUse :=
  (specs.find? fun spec => spec.short == some name).map fun spec =>
    ⟨spec, if rest.isEmpty then none else some (String.ofList (dropEquals rest))⟩

def optionUse? (specs : List OptionSpec) (argument : String) : Option OptionUse :=
  match argument.toList with
  | '-' :: '-' :: rest => longUse? specs rest
  | '-' :: name :: rest => shortUse? specs name rest
  | _ => none

/-- Whether an argument looks like an option and so is not the value of the one
before it.  A single dash does not. -/
def looksLikeOption (argument : String) : Bool :=
  match argument.toList with
  | '-' :: _ :: _ => true
  | _ => false

/-! ## Whole command lines -/

/-- A command line as the long names of its options with their values. -/
abbrev OptionValues := List (String × String)

def readOptions? (specs : List OptionSpec) : List String → Option OptionValues
  | [] => some []
  | argument :: rest =>
      if argument = "--" then if rest.isEmpty then some [] else none
      else
        match optionUse? specs argument with
        | none => none
        | some ⟨spec, some value⟩ =>
            if spec.accepts value then
              (readOptions? specs rest).map fun values => (spec.long, value) :: values
            else none
        | some ⟨spec, none⟩ =>
            match rest with
            | [] => none
            | value :: further =>
                if looksLikeOption value || !spec.accepts value then none
                else (readOptions? specs further).map fun values => (spec.long, value) :: values

namespace OptionValues

def all (values : OptionValues) (long : String) : List String :=
  values.filterMap fun entry => if entry.1 = long then some entry.2 else none

/-- The value of an option that is given at most once. -/
def get? (values : OptionValues) (long : String) : Option String := (values.all long).head?

/-- Whether every option is given as often as it may and has to be. -/
def fits (values : OptionValues) (specs : List OptionSpec) : Bool :=
  specs.all fun spec =>
    let uses := (values.all spec.long).length
    (spec.repeatable || uses ≤ 1) && (!spec.required || 1 ≤ uses)

end OptionValues

def parseOptions? (specs : List OptionSpec) (arguments : List String) : Option OptionValues :=
  (readOptions? specs arguments).filter fun values => values.fits specs

end RecordGraph
