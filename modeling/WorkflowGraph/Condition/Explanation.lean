import WorkflowGraph.Graph.Basic
import WorkflowGraph.Schema
import WorkflowGraph.Condition.Evaluation
import WorkflowGraph.Condition.Reference
set_option autoImplicit false

namespace WorkflowGraph.Condition

structure Outcome where
  fired : Bool
  explanation : String
deriving DecidableEq, Repr

def pathValue (s : State) (path : String) : String :=
  let value := match s.getPath path with
    | some v => v.render
    | none => "undefined"
  "state." ++ path ++ " = " ++ value

def explain (edge : Edge) (s : State) : Outcome :=
  let condition := Text.trimmed (edge.condition.getD "")
  if condition = "" then
    ⟨true, "Edge '" ++ edge.id ++ "' has no condition and always fires"⟩
  else
    let fired := evaluate condition s
    let values := (statePaths condition).map (pathValue s)
    ⟨fired,
      "Edge '" ++ edge.id ++ "' " ++ (if fired then "fired" else "blocked") ++ ": " ++ condition
        ++ (if values.isEmpty then "" else " [" ++ ", ".intercalate values ++ "]")⟩

def unlistedFields (condition : String) (schema : Schema) : List String :=
  (topLevelFields condition).filter fun field => !schema.contains field

def unlistedWarning (field : String) : String :=
  "Field '" ++ field ++ "' is not defined in the state schema"

def warnings (condition : String) (schema : Schema) : List String :=
  (unlistedFields condition schema).map unlistedWarning

end WorkflowGraph.Condition
