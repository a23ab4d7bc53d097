import RecordGraph.Adapter
import RecordGraph.Command.Option
import RecordGraph.Json.Layout
import RecordGraph.Query.OptionsDocument

/-!
# Commands

There are two commands.  One compiles a selection query; the other reads a schema
and data from files, runs a query on them and loads relations.  Both give a JSON
value as their result.
-/

namespace RecordGraph

/-- What the find command is asked for. -/
structure FindCommand where
  /-- The file with the schema. -/
  schema : String
  /-- The file with the data. -/
  data : String
  /-- The name of the mapper whose records are wanted. -/
  mapper : String
  /-- The selection query, as JSON text. -/
  query : Option String
  /-- The relations to load. -/
  load : List String
  /-- The fields to return, all of them if none are named. -/
  fields : List String
  prune : PrunePolicy
  /-- The default identity field. -/
  idAttribute : String
  deriving DecidableEq, Repr

/-- A command. -/
inductive Command where
  | compile (query : String)
  | find (asked : FindCommand)
  deriving DecidableEq, Repr

/-! ## Reading the command line -/

namespace Command

def compileSpecs : List OptionSpec :=
  [{ OptionSpec.single "query" (some 'q') with required := true }]

/-- A file name, which must not be empty. -/
def fileSpec (long : String) : OptionSpec :=
  { OptionSpec.single long none with required := true, accepts := fun value => value != "" }

/-- The policy that a word on the command line names. -/
def policy? (word : String) : Option PrunePolicy :=
  if word = "blank" then some .blankUnmatched
  else if word = "drop" then some .dropUnmatched
  else none

def findSpecs : List OptionSpec :=
  [fileSpec "schema", fileSpec "data",
    { OptionSpec.single "mapper" (some 'm') with required := true },
    OptionSpec.single "query" (some 'q'),
    { OptionSpec.single "with" (some 'w') with repeatable := true },
    { OptionSpec.single "field" none with repeatable := true },
    { OptionSpec.single "prune" none with accepts := fun value => (policy? value).isSome },
    OptionSpec.single "id-attribute" none]

def findOf? (values : OptionValues) : Option FindCommand := do
  let schema ← values.get? "schema"
  let data ← values.get? "data"
  let mapper ← values.get? "mapper"
  return {
    schema, data, mapper
    query := values.get? "query"
    load := values.all "with"
    fields := values.all "field"
    prune := ((values.get? "prune").bind policy?).getD Config.default.prunePolicy
    idAttribute := (values.get? "id-attribute").getD Config.default.defaultIdAttribute }

def ofArguments? : List String → Option Command
  | "compile" :: rest =>
      (parseOptions? compileSpecs rest).bind fun values => (values.get? "query").map .compile
  | "find" :: rest => (parseOptions? findSpecs rest).bind fun values => (findOf? values).map .find
  | _ => none

def files : Command → List String
  | .compile _ => []
  | .find asked => [asked.schema, asked.data]

end Command

/-! ## Failures -/

/-- Why a command fails. -/
inductive CommandError where
  | usage
  | unreadableSchema (file : String)
  | schema (error : CatalogError)
  | unreadableData (file : String)
  | malformedData
  | data (error : DataError)
  | query (error : SelectionError)
  | access (error : AccessError)
  deriving DecidableEq, Repr

namespace CommandError

/-- What the command was doing when it failed, where that is said. -/
def context? : CommandError → Option String
  | .usage => none
  | .unreadableSchema file => some ("reading schema " ++ file)
  | .schema _ => some "loading schema"
  | .unreadableData file => some ("reading data " ++ file)
  | .malformedData => none
  | .data _ => some "loading data"
  | .query _ => some "parsing selection query"
  | .access _ => none

/-- The wording of the cause, where it has one of its own. -/
def message : CommandError → String
  | .usage => ""
  | .unreadableSchema _ => ""
  | .schema error => error.message
  | .unreadableData _ => ""
  | .malformedData => ""
  | .data error => error.message
  | .query error => error.message
  | .access error => error.message

end CommandError

/-! ## Running commands -/

namespace FindCommand

def config (asked : FindCommand) : Config := ⟨asked.prune, asked.idAttribute⟩

def options (asked : FindCommand) : FindOptions where
  load := ⟨asked.load⟩
  fields := if asked.fields.isEmpty then none else some (.many asked.fields)
  collection := none

def selection (asked : FindCommand) : Except SelectionError Selection :=
  match asked.query with
  | some text => Selection.ofText text
  | none => .ok .empty

def run (asked : FindCommand) (contents : String → Option String) :
    Except CommandError (List Document) := do
  let schema ← (contents asked.schema).elim (.error (.unreadableSchema asked.schema)) .ok
  let catalog ← (Catalog.ofText schema).mapError .schema
  let text ← (contents asked.data).elim (.error (.unreadableData asked.data)) .ok
  let data ← (Value.parse? text).elim (.error .malformedData) .ok
  let (loaded, store) := Store.empty.load data
  loaded.mapError .data
  let selection ← asked.selection.mapError .query
  let search := Adapter.findAll ⟨catalog, asked.config⟩ .direct asked.mapper selection asked.options
  (search.outcome ⟨store, []⟩).1.mapError .access

end FindCommand

namespace Command

def compiledValue (query : CompiledQuery) : Value :=
  .object [("filter", .object query.filter), ("options", .object query.options.toDocument)]

def run (command : Command) (contents : String → Option String) : Except CommandError Value :=
  match command with
  | .compile text => do
      let selection ← (Selection.ofText text).mapError .query
      return compiledValue selection.compile
  | .find asked => do
      let records ← asked.run contents
      return .array (records.map .object)

def output (arguments : List String) (contents : String → Option String) :
    Except CommandError String := do
  let command ← (ofArguments? arguments).elim (.error .usage) .ok
  let result ← command.run contents
  return result.layout ++ "\n"

end Command

end RecordGraph
