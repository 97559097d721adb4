import WorkflowGraph.Number.Numeral
import WorkflowGraph.Text.Blank
set_option autoImplicit false

namespace WorkflowGraph

def budgetVariable : String := "GRAPHSIM_MAX_STEPS"

def defaultBudget : Nat := 1000

structure BadBudget where
  text : String
deriving DecidableEq, Repr

def BadBudget.message (e : BadBudget) : String :=
  "Configuration error: " ++ budgetVariable ++ " must be a positive integer, got '" ++ e.text ++ "'"

/-- The budget that the variable says: a positive number of 64 bits with blanks around it. -/
def budgetOf (budgetText : Option String) : Except BadBudget Nat :=
  match budgetText with
  | none => .ok defaultBudget
  | some text =>
    match readWord64? 10 (Text.trim text.toList) with
    | some (n + 1) => .ok (n + 1)
    | _ => .error ⟨text⟩

end WorkflowGraph
