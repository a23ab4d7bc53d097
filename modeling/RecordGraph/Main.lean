import RecordGraph.Command

/-!
# The command line

Read the files that a command needs, run it, and print its result.
-/

namespace RecordGraph

def usageText : String :=
  "usage: compile --query TEXT\n" ++
  "       find --schema FILE --data FILE --mapper NAME [--query TEXT] [--with PATH]...\n" ++
  "            [--field NAME]... [--prune blank|drop] [--id-attribute NAME]"

def readFile? (file : String) : IO (Option String) := do
  try
    return some (← IO.FS.readFile file)
  catch _ =>
    return none

def reportFailure (error : CommandError) : IO UInt32 := do
  match error with
  | .usage =>
      IO.eprintln usageText
      return 2
  | other =>
      let context := (other.context?.toList ++ [other.message]).filter (· != "")
      IO.eprintln ("Error: " ++ ": ".intercalate context)
      return 1

end RecordGraph

def main (arguments : List String) : IO UInt32 := do
  let files := ((RecordGraph.Command.ofArguments? arguments).map RecordGraph.Command.files).getD []
  let contents ← files.mapM fun file => return (file, ← RecordGraph.readFile? file)
  match RecordGraph.Command.output arguments fun file => (contents.lookup file).join with
  | .ok text =>
      IO.print text
      return 0
  | .error error => RecordGraph.reportFailure error
