import WorkflowGraph.Condition.Operand
set_option autoImplicit false

namespace WorkflowGraph.Condition

def samePath (left right : String) : Bool :=
  match statePath? (Text.trim left.toList), statePath? (Text.trim right.toList) with
  | some p, some q => p == q
  | _, _ => false

def CompareOp.holds (op : CompareOp) (samePath : Bool) (left right : Operand) : Bool :=
  match op with
  | .eq => strictEquals samePath left right
  | .notEq => !strictEquals samePath left right
  | .gt => right.toNumber.lt left.toNumber
  | .lt => left.toNumber.lt right.toNumber
  | .gte => right.toNumber.le left.toNumber
  | .lte => left.toNumber.le right.toNumber

def contains (needle : Operand) (haystack : Option Json) : Bool :=
  match needle, haystack with
  | .value v, some (.array items) => items.any (scalarEquals v)
  | _, _ => false

def Expr.eval (s : State) : Expr → Bool
  | .always => true
  | .compare left op right => op.holds (samePath left right) (operand left s) (operand right s)
  | .isIn needle haystack => contains (operand needle s) (resolve? haystack s)
  | .and left right => left.eval s && right.eval s
  | .or left right => left.eval s || right.eval s
  | .not inner => !inner.eval s
  | .unsupported _ => false

def evaluate (condition : String) (s : State) : Bool := (parse condition).eval s

end WorkflowGraph.Condition
