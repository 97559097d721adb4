import WorkflowGraph.Json.Reader
import WorkflowGraph.Source.Record
import WorkflowGraph.Text.Pieces
import WorkflowGraph.Yaml.Reader
set_option autoImplicit false

namespace WorkflowGraph

inductive Format where
  | json
  | yaml
deriving DecidableEq, Repr

namespace Format

/-- The last part of a path. Empty parts and single dots are no parts. -/
def fileName (path : String) : List Char :=
  (((Text.pieces '/' path.toList).filter fun part => part ≠ [] && part ≠ ['.']).getLast?).getD []

/-- What follows the last dot of a file name, unless the dot comes first. -/
def extension? (name : List Char) : Option (List Char) :=
  match (Text.pieces '.' name).reverse with
  | last :: before => if name = ['.', '.'] || before.all List.isEmpty && before.length ≤ 1 then none
    else some last
  | [] => none

def ofPath (path : String) : Format :=
  match extension? (fileName path) with
  | some ext => if ext.map Char.toLower = ['j', 's', 'o', 'n'] then .json else .yaml
  | none => .yaml

end Format

inductive DecodeError where
  | json (fault : Fault)
  | yaml
deriving DecidableEq, Repr

def Format.decode {α : Type} (format : Format) (read : Dialect → Source → Decoding α)
    (text : String) : Except DecodeError α :=
  match format with
  | .json => (Json.decode (read .streamed) text).mapError .json
  | .yaml => (Yaml.decode (read .yaml) text).mapError fun _ => .yaml

end WorkflowGraph
