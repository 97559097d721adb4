import WorkflowGraph.Document.Basic
import WorkflowGraph.Document.Format
set_option autoImplicit false

namespace WorkflowGraph

abbrev Files := String → Option String

inductive LoadError where
  | unreadable
  | undecodable (cause : DecodeError)
  | noNodes (path : String)
deriving DecidableEq, Repr

def noNodesMessage (path : String) : String :=
  "Invalid graph document: " ++ path ++ " defines no nodes"

namespace Files

def load {α : Type} (files : Files) (read : Dialect → Source → Decoding α) (path : String) :
    Except LoadError α :=
  match files path with
  | none => .error .unreadable
  | some text => ((Format.ofPath path).decode read text).mapError .undecodable

def loadGraph (files : Files) (path : String) : Except LoadError Document := do
  let document ← files.load Document.read path
  if document.graph.nodes.isEmpty then .error (.noNodes path) else .ok document

def loadSchema (files : Files) (path : String) : Except LoadError Schema :=
  files.load Schema.read path

def loadState (files : Files) (path : String) : Except LoadError State :=
  files.load (fun _ => Source.fields) path

end Files

end WorkflowGraph
