import WorkflowGraph.Source.Record
set_option autoImplicit false

namespace WorkflowGraph

inductive DiagnosticKind where
  | noStart
  | unreachable
  | cycle
  | maxSteps
  | invalidFieldRef
deriving DecidableEq, Repr

namespace DiagnosticKind

def name : DiagnosticKind → String
  | .noStart => "no_start"
  | .unreachable => "unreachable"
  | .cycle => "cycle"
  | .maxSteps => "max_steps"
  | .invalidFieldRef => "invalid_field_ref"

def words : List (String × DiagnosticKind) :=
  [.noStart, .unreachable, .cycle, .maxSteps, .invalidFieldRef].map fun k => (k.name, k)

def read (dialect : Dialect) (s : Source) : Decoding DiagnosticKind := s.variant words dialect

end DiagnosticKind

structure Diagnostic where
  kind : DiagnosticKind
  message : String
  relatedIds : List String
deriving DecidableEq, Repr

namespace Diagnostic

def render (d : Diagnostic) : String := d.kind.name ++ ": " ++ d.message

def reader (dialect : Dialect) : RecordReader Diagnostic :=
  (RecordReader.pure Diagnostic.mk)
    |>.required "type" (DiagnosticKind.read dialect)
    |>.required "message" Source.text
    |>.required "relatedIds" (Source.listOf Source.text)

def read (dialect : Dialect) : Source → Decoding Diagnostic := (reader dialect).read dialect

def toJson (d : Diagnostic) : Json :=
  Json.ofMembers
    [("type", .string d.kind.name), ("message", .string d.message),
      ("relatedIds", .array (d.relatedIds.map .string))]

end Diagnostic

end WorkflowGraph
