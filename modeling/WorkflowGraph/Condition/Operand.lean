import WorkflowGraph.Json.Reader
import WorkflowGraph.State
import WorkflowGraph.Text.Blank
import WorkflowGraph.Condition.Parser
set_option autoImplicit false

namespace WorkflowGraph.Condition

def statePath? : List Char → Option (List Char)
  | 's' :: 't' :: 'a' :: 't' :: 'e' :: '.' :: path => some path
  | _ => none

def unquote? : List Char → Option (List Char)
  | [] => none
  | q :: rest => if isQuote q ∧ rest.getLast? = some q then some rest.dropLast else none

/-- A decimal numeral as a number: an integer if it is written as one and fits 64 bits with its
sign. -/
def number? (cs : List Char) : Option Json.Number :=
  match Numeral.read? cs with
  | none => none
  | some numeral =>
    match readInt64? 10 cs with
    | some n => some (.int n)
    | none =>
      match numeral.value with
      | .finite x => some (.float x)
      | _ => none

def array? (cs : List Char) : Option (List Json) :=
  match Json.parse (String.ofList cs) with
  | .ok (.array items) => some items
  | _ => none

def isBracketed (cs : List Char) : Bool := cs.head? == some '[' && cs.getLast? == some ']'

def literal? (cs : List Char) : Option Json :=
  match unquote? cs with
  | some inner => some (.string (String.ofList inner))
  | none =>
    if isBracketed cs then
      match array? cs with
      | some items => some (.array items)
      | none => some (.string (String.ofList cs))
    else
      match number? cs with
      | some n => some (.number n)
      | none =>
        let word := String.ofList cs
        if word = "true" then some (.bool true)
        else if word = "false" then some (.bool false)
        else if word = "null" then some .null
        else if word = "undefined" then none
        else some (.string word)

def resolve? (token : String) (s : State) : Option Json :=
  let cs := Text.trim token.toList
  match statePath? cs with
  | some path => s.getPath (String.ofList path)
  | none => literal? cs

inductive Operand where
  | missing
  | value (v : Json)
  /-- A numeral beyond the floating format. -/
  | infinite (negative : Bool)

def infinite? (cs : List Char) : Option Bool :=
  match (Numeral.read? cs).map Numeral.value with
  | some (.infinite negative) => some negative
  | _ => none

def operand (token : String) (s : State) : Operand :=
  match infinite? (Text.trim token.toList) with
  -- No JSON value can be an infinity, so it is not resolved to one.
  | some negative => .infinite negative
  | none =>
    match resolve? token s with
    | some v => .value v
    | none => .missing

def hexNumber (cs : List Char) : Binary64 :=
  if cs.isEmpty || !cs.all (fun c => digitValue c < 16) then .nan
  else cs.foldl (fun x c => x.pushHexDigit (digitValue c)) (.finite .zero)

def stringNumber (s : String) : Binary64 :=
  let cs := Text.trim s.toList
  if cs.isEmpty then .finite .zero
  else
    match Numeral.read? cs with
    | some numeral => numeral.value
    | none =>
      match cs with
      -- Of the bases that a mark can tell only this one is read, and only without a sign.
      | '0' :: 'x' :: digits => hexNumber digits
      | '0' :: 'X' :: digits => hexNumber digits
      | cs =>
        let word := String.ofList cs
        if word = "Infinity" ∨ word = "+Infinity" then .infinite false
        else if word = "-Infinity" then .infinite true
        else .nan

/-- The number that a value counts as. An array of one item counts as the item does, unless that
is a truth value or an object. -/
def toNumber : Json → Binary64
  | .null => .finite .zero
  | .bool b => Binary64.ofInt (if b then 1 else 0)
  | .number n => n.value
  | .string s => stringNumber s
  | .array [] => .finite .zero
  | .array [.bool _] => .nan
  | .array [item] => toNumber item
  | .array _ => .nan
  | .object _ => .nan

def Operand.toNumber : Operand → Binary64
  | .missing => .nan
  | .value v => Condition.toNumber v
  | .infinite negative => .infinite negative

/-- Equality of two values that are no containers, without conversion; numbers by their value. A
container equals nothing here. -/
def scalarEquals : Json → Json → Bool
  | .null, .null => true
  | .bool a, .bool b => a == b
  | .number m, .number n => m.value.eq n.value
  | .string s, .string t => s == t
  | _, _ => false

/-- Equality of operands. Containers are told apart by where they are: two are equal if the same
path leads to both. -/
def strictEquals (samePath : Bool) : Operand → Operand → Bool
  | .missing, .missing => true
  | .infinite a, .infinite b => a == b
  | .value v, .value w => if v.isContainer && w.isContainer then samePath else scalarEquals v w
  | _, _ => false

end WorkflowGraph.Condition
