import WorkflowGraph.Graph.Basic
import WorkflowGraph.Schema
set_option autoImplicit false

namespace WorkflowGraph

structure Document where
  graph : Graph
  schema : Option Schema
  initialState : Option State

namespace Document

structure Draft where
  schema : Option (Option Schema)
  initialState : Option (Option State)
  held : List (Source × Source)

def gather (dialect : Dialect) (draft : Draft) : List (Source × Source) → Decoding Draft
  | [] => return draft
  | (key, item) :: members => do
    let name ← key.text
    if name = "schema" then
      -- A second schema is a fault even if the first one is absent.
      if draft.schema.isSome then throw .mismatch
      else
        let schema ← item.optional (Schema.read dialect)
        gather dialect { draft with schema := some schema } members
    else if name = "initialState" then
      if draft.initialState.isSome then throw .mismatch
      else
        let initialState ← item.optional Source.fields
        gather dialect { draft with initialState := some initialState } members
    else
      -- The graph is read from the other members when all of them are known.
      let item ← item.hold
      gather dialect { draft with held := draft.held ++ [(.atom (.string name), item)] } members

def Draft.finish (draft : Draft) : Decoding Document := do
  let graph ← (Graph.reader .held).ofMembers draft.held .closed
  return ⟨graph, draft.schema.join, draft.initialState.join⟩

def read (dialect : Dialect) (s : Source) : Decoding Document := do
  let ofMembers := fun members ending => do
    let draft ← gather dialect ⟨none, none, []⟩ members
    Ending.check ending
    draft.finish
  match ← s.follow with
  | .mapping members ending => ofMembers members ending
  | .tagged (.mapping members ending) => ofMembers members ending
  | .scalar s => if s.isBare then return ⟨.empty, none, none⟩ else throw .mismatch
  | other => throw other.fault

def toJson (d : Document) : Json :=
  Json.ofMembers <|
    d.graph.members
      ++ (d.schema.map fun s => ("schema", s.toJson)).toList
      ++ (d.initialState.map fun s => ("initialState", s.toJson)).toList

end Document

end WorkflowGraph
