import WorkflowGraph.Graph.Trace
import WorkflowGraph.Graph.Selection
set_option autoImplicit false

/-!
# Runs

A run starts at the first start node and executes a node in each step: the node leaves its marks
on the state, and the edge it takes leads to the next node. It ends by itself where no edge is
taken, and fails at an id of no node, at a decision node that comes up again before another node
has run, and when the budget of steps is spent.
-/
namespace WorkflowGraph

inductive Failure where
  | noStart
  | unknownNode (id : String)
  /-- A node came up again; the ids are those passed since the last node that was no decision. -/
  | revisited (id : String) (passed : List String)
  | budgetSpent (budget : Nat) (id : String)
deriving DecidableEq, Repr

def Failure.diagnostic : Failure → Diagnostic
  | .noStart => ⟨.noStart, "Graph has no Start node; nothing to run", []⟩
  | .unknownNode id => ⟨.unreachable, "Edge leads to unknown node '" ++ id ++ "'", [id]⟩
  | .revisited id passed =>
    ⟨.cycle, "Node '" ++ id ++ "' was revisited without progress", passed⟩
  | .budgetSpent budget id =>
    ⟨.maxSteps, "Step budget of " ++ toString budget ++ " exhausted", [id]⟩

/-- Where a run stands: the id that comes next, the state, and the ids of the decision nodes passed
since the last other node. -/
structure Position where
  current : String
  state : State
  passed : List String

namespace Node

def selection (node : Node) (g : Graph) (before : State) : Selection :=
  node.type.select node (g.outgoing node.id) (node.type.apply node before)

def step (node : Node) (g : Graph) (number : Nat) (before : State) : Step :=
  let selection := node.selection g before
  { number
    nodeId := node.id
    nodeType := node.type
    fired := selection.fired
    blocked := selection.blocked
    before
    after := node.type.apply node before
    explanation := selection.explanation }

end Node

namespace Graph

/-- The steps from a position on, at most `left` of them, and the failure if the run does not end
by itself. `number` is the number of the next step. -/
def walk (g : Graph) (budget : Nat) :
    (left number : Nat) → Position → List Step × Option Failure
  | 0, _, p => ([], some (.budgetSpent budget p.current))
  | left + 1, number, p =>
    if p.current ∈ p.passed then ([], some (.revisited p.current p.passed))
    else
      match g.node? p.current with
      | none => ([], some (.unknownNode p.current))
      | some node =>
        let step := node.step g number p.state
        match (node.selection g p.state).next with
        | none => ([step], none)
        | some next =>
          -- Any node that is no decision counts as progress.
          let passed := if node.type.isDecision then p.passed ++ [p.current] else []
          let (steps, failure) := walk g budget left (number + 1) ⟨next, step.after, passed⟩
          (step :: steps, failure)

def run (g : Graph) (budget : Nat) (initial : State) : Trace :=
  match g.start? with
  | none => ⟨[], initial, false, some Failure.noStart.diagnostic⟩
  | some start =>
    let (steps, failure) := g.walk budget budget 0 ⟨start.id, initial, []⟩
    { steps
      finalState := (steps.getLast?.map (·.after)).getD initial
      terminated := failure.isNone
      error := failure.map Failure.diagnostic }

end Graph

end WorkflowGraph
