set_option autoImplicit false

namespace WorkflowGraph.Condition

inductive CompareOp where
  | eq
  | notEq
  | gt
  | lt
  | gte
  | lte
deriving DecidableEq, Repr

namespace CompareOp

def symbol : CompareOp → String
  | .eq => "=="
  | .notEq => "!="
  | .gt => ">"
  | .lt => "<"
  | .gte => ">="
  | .lte => "<="

def all : List CompareOp := [.eq, .notEq, .gt, .lt, .gte, .lte]

end CompareOp

inductive Expr where
  | always
  | compare (left : String) (op : CompareOp) (right : String)
  | isIn (needle haystack : String)
  | and (left right : Expr)
  | or (left right : Expr)
  | not (inner : Expr)
  | unsupported (text : String)
deriving DecidableEq, Repr

namespace Expr

def render : Expr → String
  | .always => "true"
  | .compare left op right => "(" ++ left ++ " " ++ op.symbol ++ " " ++ right ++ ")"
  | .isIn needle haystack => "(" ++ needle ++ " in " ++ haystack ++ ")"
  | .and left right => "(" ++ left.render ++ " && " ++ right.render ++ ")"
  | .or left right => "(" ++ left.render ++ " || " ++ right.render ++ ")"
  | .not inner => "!" ++ inner.render
  | .unsupported text => "<unsupported: " ++ text ++ ">"

def operands : Expr → List String
  | .always => []
  | .compare left _ right => [left, right]
  | .isIn needle haystack => [needle, haystack]
  | .and left right => left.operands ++ right.operands
  | .or left right => left.operands ++ right.operands
  | .not inner => inner.operands
  | .unsupported _ => []

end Expr

end WorkflowGraph.Condition
