import WorkflowGraph.Json.Escape
import WorkflowGraph.Json.Fields
import WorkflowGraph.Number.Shortest
set_option autoImplicit false

namespace WorkflowGraph.Json

def quote (s : String) : String := "\"" ++ String.ofList (s.toList.flatMap escape) ++ "\""

def Number.render : Number → String
  | .int n => toString n
  | .float x => x.render

mutual
def render : Json → String
  | .null => "null"
  | .bool true => "true"
  | .bool false => "false"
  | .number n => n.render
  | .string s => quote s
  | .array items => "[" ++ ",".intercalate (renderItems items) ++ "]"
  | .object members => "\x7b" ++ ",".intercalate (renderMembers members) ++ "\x7d"

def renderItems : List Json → List String
  | [] => []
  | item :: items => render item :: renderItems items

def renderMembers : List (String × Json) → List String
  | [] => []
  | (key, value) :: members => (quote key ++ ":" ++ render value) :: renderMembers members
end

end WorkflowGraph.Json
