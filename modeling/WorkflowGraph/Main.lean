import WorkflowGraph.CommandLine.Execution
set_option autoImplicit false

namespace WorkflowGraph

def readText (path : String) : IO (Option String) := do
  try return some (← IO.FS.readFile path)
  catch _ => return none

/-- The file of variables in the working directory or in the nearest directory above it that has
one, looking up at most `levels` levels. -/
def findEnvFile (directory : String) : (levels : Nat) → IO (Option String)
  | 0 => return none
  | levels + 1 => do
    match ← readText (directory ++ ".env") with
    | some text => return some text
    | none => findEnvFile (directory ++ "../") levels

def environmentFor (file : Option String) : IO EnvFile.Variables := do
  let names := budgetVariable :: ((file.map EnvFile.mentioned).getD [])
  names.filterMapM fun name => do return (← IO.getEnv name).map fun value => (name, value)

def runProgram (args : List String) : IO UInt32 := do
  let file ← findEnvFile "" 64
  let environment ← environmentFor file
  let paths := match CommandLine.Command.ofArguments args with
    | .ok command => command.paths
    | .error _ => []
  let texts ← paths.mapM fun path => do return (path, ← readText path)
  let files : Files := fun path => (texts.find? (·.1 = path)).bind (·.2)
  let outcome := CommandLine.executeIn environment file files args
  IO.print outcome.stdout
  IO.eprint outcome.stderr
  return outcome.exit.toUInt32

end WorkflowGraph

def main (args : List String) : IO UInt32 := WorkflowGraph.runProgram args
