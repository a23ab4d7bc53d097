import RecordGraph.EagerLoad
import RecordGraph.Json.Decode

/-!
# Configuration

The configuration says how eager-load lists are handed down and which field
identifies the records of a mapper that names none.
-/

namespace RecordGraph

/-- The settings of an adapter. -/
structure Config where
  prunePolicy : PrunePolicy
  defaultIdAttribute : String
  deriving DecidableEq, Repr

def PrunePolicy.name : PrunePolicy → String
  | .blankUnmatched => "blank_unmatched"
  | .dropUnmatched => "drop_unmatched"

def PrunePolicy.ofTree? (tree : Tree) : Option PrunePolicy :=
  tree.variant?.bind fun word =>
    if word = "blank_unmatched" then some .blankUnmatched
    else if word = "drop_unmatched" then some .dropUnmatched
    else none

namespace Config

/-- Unmatched entries are blanked, and records are identified by `id`. -/
def default : Config := ⟨.blankUnmatched, "id"⟩

def withPrunePolicy (config : Config) (policy : PrunePolicy) : Config :=
  { config with prunePolicy := policy }

def withDefaultIdAttribute (config : Config) (field : String) : Config :=
  { config with defaultIdAttribute := field }

def toDocument (config : Config) : Document :=
  [("prunePolicy", .string config.prunePolicy.name),
    ("defaultIdAttribute", .string config.defaultIdAttribute)]

/-- Read a configuration; missing settings take their defaults. -/
def ofTree? (tree : Tree) : Option Config := do
  let fields ← tree.fields? ["prunePolicy", "defaultIdAttribute"]
  let prunePolicy ←
    Tree.defaulted default.prunePolicy PrunePolicy.ofTree? fields "prunePolicy"
  let defaultIdAttribute ←
    Tree.defaulted default.defaultIdAttribute Tree.text? fields "defaultIdAttribute"
  return { prunePolicy, defaultIdAttribute }

def ofText? (text : String) : Option Config := (Tree.parse? text).bind ofTree?

end Config

end RecordGraph
