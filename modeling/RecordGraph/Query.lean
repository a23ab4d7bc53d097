import RecordGraph.Query.Filter
import RecordGraph.Query.Options

/-!
# Compiled queries

The two documents that a store needs: a filter and options, compiled from a
selection query independently of each other.
-/

namespace RecordGraph

/-- A compiled query. -/
structure CompiledQuery where
  filter : Document
  options : QueryOptions
  deriving DecidableEq, Repr

def Selection.compile (selection : Selection) : CompiledQuery :=
  ⟨selection.filter, selection.options⟩

end RecordGraph
