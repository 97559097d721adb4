import WorkflowGraph.CommandLine.Arguments
import WorkflowGraph.Document.Loading
import WorkflowGraph.Graph.Run
import WorkflowGraph.Graph.Validation
import WorkflowGraph.Settings.Budget
import WorkflowGraph.Settings.EnvFile
set_option autoImplicit false

namespace WorkflowGraph.CommandLine

inductive CommandError where
  | badBudget (cause : BadBudget)
  | noGraph (path : String) (cause : LoadError)
  | unloaded (path : String) (cause : LoadError)
deriving DecidableEq, Repr

def CommandError.message : CommandError → String
  | .badBudget cause => cause.message
  | .noGraph path _ => "failed to load graph " ++ path
  | .unloaded path (.noNodes _) => noNodesMessage path
  | .unloaded path .unreadable => "cannot read " ++ path
  | .unloaded path (.undecodable _) => path ++ " is not well formed"

structure Outcome where
  exit : Nat
  stdout : String
  stderr : String

structure Report where
  written : String
  error : Option CommandError

def Report.ofExcept : Except CommandError String → Report
  | .ok written => ⟨written, none⟩
  | .error e => ⟨"", some e⟩

def Report.outcome (r : Report) : Outcome :=
  match r.error with
  | none => ⟨0, r.written, ""⟩
  | some e => ⟨1, r.written, "Error: " ++ e.message ++ "\n"⟩

namespace Command

def graphAt (files : Files) (path : String) : Except CommandError Document :=
  (files.loadGraph path).mapError (.noGraph path)

def schemaAt (files : Files) (path : String) : Except CommandError Schema :=
  (files.loadSchema path).mapError (.unloaded path)

def stateAt (files : Files) (path : String) : Except CommandError State :=
  (files.loadState path).mapError (.unloaded path)

def schemaOr (files : Files) (document : Document) (path : Option String) :
    Except CommandError (Option Schema) :=
  match path with
  | some path => (schemaAt files path).map some
  | none => .ok document.schema

def checkGraph (files : Files) (graph : String) (schema : Option String) :
    Except CommandError String := do
  let document ← graphAt files graph
  let schema ← schemaOr files document schema
  match document.graph.validate schema with
  | [] => return "No problems found\n"
  | found =>
    return String.join <| found.map fun d =>
      d.render ++ " [" ++ ", ".intercalate d.relatedIds ++ "]\n"

/-- Runs a graph on the state of a file, else on the one that comes with the graph, else on the
defaults of the schema. -/
def runGraph (files : Files) (budgetText : Option String) (graph : String)
    (schema state : Option String) (budget : Option Nat) (json : Bool) :
    Except CommandError String := do
  let default ← (budgetOf budgetText).mapError .badBudget
  let document ← graphAt files graph
  let schema ← schemaOr files document schema
  let initial ← match state with
    | some path => stateAt files path
    | none => .ok <| (document.initialState <|> schema.map Schema.initialState).getD {}
  let trace := document.graph.run (budget.getD default) initial
  return if json then trace.toJson.render ++ "\n" else trace.render

def tryCondition (files : Files) (text : String) (state schema : Option String) : Report :=
  match (state.map (stateAt files)).getD (.ok {}) with
  | .error e => ⟨"", some e⟩
  | .ok state =>
    let written := "parsed: " ++ (Condition.parse text).render ++ "\nvalue:  "
      ++ (if Condition.evaluate text state then "true" else "false") ++ "\n"
    match schema.map (schemaAt files) with
    | none => ⟨written, none⟩
    | some (.error e) => ⟨written, some e⟩
    | some (.ok schema) =>
      let warnings := (Condition.warnings text schema).map fun w => "warning: " ++ w ++ "\n"
      ⟨written ++ String.join warnings, none⟩

def report (files : Files) (budgetText : Option String) : Command → Report
  | .validate graph schema => .ofExcept (checkGraph files graph schema)
  | .run graph schema state budget json =>
    .ofExcept (runGraph files budgetText graph schema state budget json)
  | .checkCondition text state schema => tryCondition files text state schema

end Command

def usage : String :=
  "Usage:\n  validate --graph FILE [--schema FILE]\n"
    ++ "  run --graph FILE [--schema FILE] [--state FILE] [--max-steps N] [--json]\n"
    ++ "  check-condition TEXT [--state FILE] [--schema FILE]\n"

def execute (files : Files) (budgetText : Option String) (args : List String) : Outcome :=
  match Command.ofArguments args with
  | .error .usage => ⟨2, "", usage⟩
  | .error .help => ⟨0, usage, ""⟩
  | .ok command => (command.report files budgetText).outcome

def Outcome.aborted : Outcome := ⟨101, "", "A variable cannot hold a zero character.\n"⟩

def executeIn (environment : EnvFile.Variables) (envFile : Option String) (files : Files)
    (args : List String) : Outcome :=
  match EnvFile.load? environment envFile with
  | some vars => execute files (vars.get? budgetVariable) args
  | none => .aborted

end WorkflowGraph.CommandLine
