import WorkflowGraph.Graph.Basic
import WorkflowGraph.Graph.Diagnostic
import WorkflowGraph.State
import WorkflowGraph.Timestamp
set_option autoImplicit false

namespace WorkflowGraph

structure Step where
  number : Nat
  nodeId : String
  nodeType : NodeType
  fired : List String
  blocked : List String
  before : State
  after : State
  explanation : String

structure Trace where
  steps : List Step
  finalState : State
  /-- The run ended by itself. -/
  terminated : Bool
  error : Option Diagnostic

def Source.timestamp (s : Source) : Decoding Timestamp := do
  match Timestamp.parse? (← s.text) with
  | some t => return t
  | none => throw .mismatch

namespace Step

def changes (step : Step) : List (String × Json) := State.changes step.before step.after

def renderLines (step : Step) : List String :=
  ["#" ++ toString step.number ++ " " ++ step.nodeId ++ " (" ++ step.nodeType.name ++ ")"]
    ++ (if step.fired.isEmpty then [] else ["   fired:   " ++ ", ".intercalate step.fired])
    ++ (if step.blocked.isEmpty then [] else ["   blocked: " ++ ", ".intercalate step.blocked])
    ++ step.changes.map (fun e => "   set " ++ e.1 ++ " = " ++ e.2.render)
    ++ ["   " ++ step.explanation]

def reader (dialect : Dialect) : RecordReader Step :=
  (RecordReader.pure Step.mk)
    |>.required "step" Source.word64
    |>.required "activeNodeId" Source.text
    |>.required "nodeType" (NodeType.read dialect)
    |>.required "firedEdgeIds" (Source.listOf Source.text)
    |>.required "blockedEdgeIds" (Source.listOf Source.text)
    |>.required "stateBefore" Source.fields
    |>.required "stateAfter" Source.fields
    |>.required "explanation" Source.text

/-- A step followed by when it began, when it ended and how long it took, which is read and passed
over. -/
def timedReader (dialect : Dialect) : RecordReader Step :=
  ((reader dialect).map fun step _ _ _ => step)
    |>.required "startedAt" Source.timestamp
    |>.required "endedAt" Source.timestamp
    |>.required "durationMs" Source.number

/-- Reads a step, which has to have its times if `timed` says so, or if it is a list of its
parts. -/
def read (dialect : Dialect) (timed : Bool) (s : Source) : Decoding Step := do
  match ← s.follow with
  | .sequence items ending => (timedReader dialect).read dialect (.sequence items ending)
  | other => (if timed then timedReader dialect else reader dialect).read dialect other

def toJson (step : Step) : Json :=
  Json.ofMembers
    [("step", .number (.int step.number)), ("activeNodeId", .string step.nodeId),
      ("nodeType", .string step.nodeType.name),
      ("firedEdgeIds", .array (step.fired.map .string)),
      ("blockedEdgeIds", .array (step.blocked.map .string)),
      ("stateBefore", step.before.toJson), ("stateAfter", step.after.toJson),
      ("explanation", .string step.explanation)]

end Step

namespace Trace

def visited (t : Trace) : List String := t.steps.map (·.nodeId)

def render (t : Trace) : String :=
  let lines := t.steps.flatMap Step.renderLines
    ++ [toString t.steps.length ++ " step(s), terminated: "
      ++ (if t.terminated then "true" else "false")]
    ++ (t.error.map fun d => "error: " ++ d.render).toList
  String.join (lines.map (· ++ "\n"))

def reader (dialect : Dialect) (timed : Bool) : RecordReader Trace :=
  (RecordReader.pure Trace.mk)
    |>.required "steps" (Source.listOf (Step.read dialect timed))
    |>.required "finalState" Source.fields
    |>.required "terminated" Source.flag
    |>.withDefault "error" (Source.optional (Diagnostic.read dialect)) none

/-- Reads a trace. As a list of its parts it has to have the times of its steps. -/
def read (dialect : Dialect) (s : Source) : Decoding Trace := do
  match ← s.follow with
  | .sequence items ending => (reader dialect true).read dialect (.sequence items ending)
  | other => (reader dialect false).read dialect other

def toJson (t : Trace) : Json :=
  Json.ofMembers <|
    [("steps", .array (t.steps.map Step.toJson)), ("finalState", t.finalState.toJson),
      ("terminated", .bool t.terminated)]
      ++ (t.error.map fun d => ("error", d.toJson)).toList

end Trace

end WorkflowGraph
