import RecordGraph.Json.Decode
import RecordGraph.Query.Options

/-!
# Options as a document

Options are written as an object that names only the options that are set, and
read back from it.
-/

namespace RecordGraph

def Value.ofCount (count : Count) : Value := .number (.whole (.ofCount count))

namespace QueryOptions

def toDocument (options : QueryOptions) : Document :=
  Document.ofPresent
    [("sort", options.sort), ("skip", options.skip.map .ofCount),
      ("limit", options.limit.map .ofCount)]

def ofTree? (tree : Tree) : Option QueryOptions := do
  let fields ← tree.fields? ["sort", "skip", "limit"]
  let sort ← Tree.optional Tree.value? fields "sort"
  let skip ← Tree.optional Tree.count? fields "skip"
  let limit ← Tree.optional Tree.count? fields "limit"
  return { sort, skip, limit }

end QueryOptions

end RecordGraph
