import WorkflowGraph.Json.Printer
import WorkflowGraph.Text.Pieces
import WorkflowGraph.Number.Numeral
import WorkflowGraph.Source.Basic
set_option autoImplicit false

namespace WorkflowGraph

abbrev State := Fields

/-- The part of a value that a segment names. An index may have a plus sign and leading zeros. -/
def Json.child? (v : Json) (segment : String) : Option Json :=
  match v with
  | .object members => Fields.find? segment members
  | .array items => (readWord64? 10 segment.toList).bind (items[·]?)
  | _ => none

def Json.descend (v : Json) (segments : List String) : Option Json :=
  segments.foldlM Json.child? v

namespace State

def follow (s : State) : List String → Option Json
  | [] => none
  | key :: rest => (s.get? key).bind (·.descend rest)

def getPath (s : State) (path : String) : Option Json := s.follow (Text.segments path)

theorem follow_insert (s : State) (key : String) (value : Json) (first : String)
    (rest : List String) :
    State.follow (s.insert key value) (first :: rest) =
      if key = first then value.descend rest else State.follow s (first :: rest) := by
  simp only [follow, Fields.get?_insert]
  split <;> rfl

def changes (before after : State) : List (String × Json) :=
  -- No node removes a key, so the keys of the later state are enough.
  after.entries.filter fun e =>
    match before.get? e.1 with
    | some old => !old.same e.2
    | none => true

end State

end WorkflowGraph
