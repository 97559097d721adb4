import WorkflowGraph.Condition.Explanation
set_option autoImplicit false

namespace WorkflowGraph

structure Selection where
  next : Option String
  fired : List String
  blocked : List String
  explanation : String
deriving DecidableEq, Repr

namespace Selection

def stop (explanation : String) : Selection := ⟨none, [], [], explanation⟩

def block (choice : Selection) (edge : Edge) : Selection :=
  { choice with blocked := choice.blocked ++ [edge.id] }

def fire (choice : Selection) (edge : Edge) : Selection :=
  { choice with
    next := choice.next.or (some edge.target)
    fired := choice.fired ++ [edge.id] }

/-- Tries one more edge. Beside the choice so far is what each trial said. -/
def tryEdge (s : State) (sofar : Selection × List String) (edge : Edge) :
    Selection × List String :=
  let outcome := Condition.explain edge s
  (if outcome.fired then sofar.1.fire edge else sofar.1.block edge,
    sofar.2 ++ [outcome.explanation])

def tryUnlessTaken (s : State) (sofar : Selection × List String) (edge : Edge) :
    Selection × List String :=
  -- Once an edge has been taken, the others are blocked without a trial.
  if sofar.1.next.isSome then (sofar.1.block edge, sofar.2) else tryEdge s sofar edge

def firstFiring (s : State) (edges : List Edge) : Selection × List String :=
  edges.foldl (tryUnlessTaken s) (stop "", [])

def allTried (s : State) (edges : List Edge) : Selection × List String :=
  edges.foldl (tryEdge s) (stop "", [])

def explained (choice : Selection × List String) (closing : String) : Selection :=
  let notes := if choice.1.next.isSome then choice.2 else choice.2 ++ [closing]
  { choice.1 with explanation := "; ".intercalate notes }

end Selection

namespace NodeType

def writes (type : NodeType) (node : Node) : List (String × Json) :=
  match type with
  | .llm =>
    [("llmOutput", .string ("[mock LLM output from " ++ node.id ++ "]")),
      ("_lastLLMNode", .string node.id)]
  | .tool =>
    [("toolOutput", .string
        ("[mock output from tool " ++ (node.setting? "toolName").getD node.id ++ "]")),
      ("_lastToolNode", .string node.id)]
  | .reducer =>
    [((node.setting? "reduceKey").getD "reduced", .bool true),
      ("_lastReducerNode", .string node.id)]
  | _ => []

def apply (type : NodeType) (node : Node) (before : State) : State :=
  (type.writes node).foldl (fun s e => s.insert e.1 e.2) before

def select (type : NodeType) (node : Node) (edges : List Edge) (s : State) : Selection :=
  if type = .terminal then .stop "End node reached; execution complete"
  else if edges.isEmpty then .stop ("Node '" ++ node.id ++ "' has no outgoing edges")
  else
    match type with
    | .router => Selection.explained (Selection.firstFiring s edges) "no route matched"
    | .loopGuard =>
      Selection.explained (Selection.allTried s edges) "loop guard closed: no edge fired"
    | _ => Selection.explained (Selection.firstFiring s edges) "no outgoing condition matched"

end NodeType

end WorkflowGraph
