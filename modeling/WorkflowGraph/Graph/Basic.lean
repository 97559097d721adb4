import WorkflowGraph.Source.Record
set_option autoImplicit false

namespace WorkflowGraph

inductive NodeType where
  | start
  | llm
  | tool
  | router
  | reducer
  | loopGuard
  | terminal
deriving DecidableEq, Repr

namespace NodeType

def name : NodeType → String
  | .start => "Start"
  | .llm => "LLM"
  | .tool => "Tool"
  | .router => "Router"
  | .reducer => "Reducer"
  | .loopGuard => "LoopGuard"
  | .terminal => "End"

def words : List (String × NodeType) :=
  [.start, .llm, .tool, .router, .reducer, .loopGuard, .terminal].map fun t => (t.name, t)

def read (dialect : Dialect) (s : Source) : Decoding NodeType := s.variant words dialect

/-- Nodes that only choose the way; a run may come back to them while it loops. -/
def isDecision : NodeType → Bool
  | .router | .loopGuard => true
  | _ => false

end NodeType

structure Node where
  id : String
  type : NodeType
  config : Fields

structure Edge where
  id : String
  source : String
  target : String
  condition : Option String
  label : Option String
deriving DecidableEq, Repr

structure Graph where
  nodes : List Node
  edges : List Edge

namespace Node

def setting? (node : Node) (key : String) : Option String :=
  (node.config.get? key).bind Json.string?

def withSetting (node : Node) (key : String) (value : Json) : Node :=
  { node with config := node.config.insert key value }

def reader (dialect : Dialect) : RecordReader Node :=
  (RecordReader.pure Node.mk)
    |>.required "id" Source.text
    |>.required "type" (NodeType.read dialect)
    |>.withDefault "config" Source.fields {}

def read (dialect : Dialect) : Source → Decoding Node := (reader dialect).read dialect

def toJson (node : Node) : Json :=
  Json.ofMembers
    [("id", .string node.id), ("type", .string node.type.name), ("config", node.config.toJson)]

end Node

namespace Edge

def reader : RecordReader Edge :=
  (RecordReader.pure Edge.mk)
    |>.required "id" Source.text
    |>.required "source" Source.text
    |>.required "target" Source.text
    |>.withDefault "condition" (Source.optional Source.text) none
    |>.withDefault "label" (Source.optional Source.text) none

def read (dialect : Dialect) : Source → Decoding Edge := reader.read dialect

def toJson (edge : Edge) : Json :=
  Json.ofMembers <|
    [("id", .string edge.id), ("source", .string edge.source), ("target", .string edge.target)]
      ++ (edge.condition.map fun c => ("condition", Json.string c)).toList
      ++ (edge.label.map fun l => ("label", Json.string l)).toList

end Edge

namespace Graph

def empty : Graph := ⟨[], []⟩

def reader (dialect : Dialect) : RecordReader Graph :=
  (RecordReader.pure Graph.mk)
    |>.withDefault "nodes" (Source.listOf (Node.read dialect)) []
    |>.withDefault "edges" (Source.listOf (Edge.read dialect)) []

def read (dialect : Dialect) : Source → Decoding Graph := (reader dialect).read dialect

def members (g : Graph) : List (String × Json) :=
  [("nodes", .array (g.nodes.map Node.toJson)), ("edges", .array (g.edges.map Edge.toJson))]

def toJson (g : Graph) : Json := Json.ofMembers g.members

def ofType (g : Graph) (type : NodeType) : List Node := g.nodes.filter (·.type = type)

/-- The node with an id: its last declaration. -/
def node? (g : Graph) (id : String) : Option Node := g.nodes.reverse.find? (·.id = id)

def start? (g : Graph) : Option Node := (g.ofType .start).head?

/-- The edges that leave a node, in ascending order of their ids; of equal ids the one declared
first comes first. -/
def outgoing (g : Graph) (id : String) : List Edge :=
  (g.edges.filter (·.source = id)).mergeSort fun a b => a.id ≤ b.id

def targets (g : Graph) (id : String) : List String :=
  (g.edges.filter (·.source = id)).map (·.target)

end Graph

end WorkflowGraph
