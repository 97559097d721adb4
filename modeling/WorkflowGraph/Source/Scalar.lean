import WorkflowGraph.Json.Basic
import WorkflowGraph.Number.Numeral
set_option autoImplicit false

namespace WorkflowGraph

inductive Atom where
  | null
  | bool (b : Bool)
  | number (n : Json.Number)
  /-- An infinity or a NaN, which no JSON number can hold. -/
  | nonFinite
  | string (s : String)

inductive ScalarStyle where
  | plain
  | literal
  | other
deriving DecidableEq

inductive Tag where
  | null
  | bool
  | int
  | float
  /-- A tag for use within the document, with its name unless that is no text. -/
  | named (name : Option String)
  | other
deriving DecidableEq, Repr

namespace Tag

def name? : Tag → Option String
  | .named name => name
  | _ => none

end Tag

structure Scalar where
  text : String
  style : ScalarStyle
  tag : Option Tag

namespace Scalar

def name? (s : Scalar) : Option String := s.tag.bind Tag.name?

def isNullWord (s : String) : Bool := s == "null" || s == "Null" || s == "NULL" || s == "~"

def bool? (s : String) : Option Bool :=
  if s = "true" ∨ s = "True" ∨ s = "TRUE" then some true
  else if s = "false" ∨ s = "False" ∨ s = "FALSE" then some false
  else none

def hasLeadingZero (cs : List Char) : Bool :=
  let digits := match cs with
    | '+' :: rest => rest
    | '-' :: rest => rest
    | cs => cs
  match digits with
  | '0' :: rest => !rest.isEmpty && rest.all Text.isAsciiDigit
  | _ => false

def magnitude? (cs : List Char) : Option Nat :=
  match cs with
  | '0' :: 'x' :: digits => wholeNumber? 16 digits
  | '0' :: 'o' :: digits => wholeNumber? 8 digits
  | '0' :: 'b' :: digits => wholeNumber? 2 digits
  | digits => if hasLeadingZero digits then none else wholeNumber? 10 digits

inductive IntegerReading where
  | none
  | outOfRange
  | some (n : Int)

/-- An integer, if it fits 128 bits; only those of 64 bits have a value. -/
def integer (cs : List Char) : IntegerReading :=
  match cs with
  | '-' :: rest =>
    match magnitude? rest with
    | none => .none
    | some n =>
      if n ≤ signedLimit then .some (-(n : Int))
      else if n ≤ Nat.pow 2 127 then .outOfRange else .none
  | cs =>
    let digits := match cs with
      | '+' :: rest => rest
      | cs => cs
    match magnitude? digits with
    | none => .none
    | some n => if n < wordLimit then .some n else if n < Nat.pow 2 128 then .outOfRange else .none

def float? (s : String) : Option Atom :=
  if s ∈ [".inf", ".Inf", ".INF", "+.inf", "+.Inf", "+.INF", "-.inf", "-.Inf", "-.INF",
      ".nan", ".NaN", ".NAN"] then some .nonFinite
  else
    match (Numeral.read? s.toList).map Numeral.value with
    | some (.finite x) => some (.number (.float x))
    | _ => none

def plainAtom? (s : String) : Option Atom :=
  if s = "" ∨ isNullWord s then some .null
  else
    match bool? s with
    | some b => some (.bool b)
    | none =>
      match integer s.toList with
      | .some n => some (.number (.int n))
      | .outOfRange => none
      | .none =>
        if hasLeadingZero s.toList then some (.string s)
        else some ((float? s).getD (.string s))

def untaggedAtom? (s : Scalar) : Option Atom :=
  if s.style = .plain then plainAtom? s.text else some (.string s.text)

/-- What a scalar is when any kind of value will do. A name is no kind. -/
def atom? (s : Scalar) : Option Atom :=
  match s.tag with
  | none => s.untaggedAtom?
  | some .null => if isNullWord s.text then some .null else none
  | some .bool => (bool? s.text).map .bool
  | some .int =>
    match integer s.text.toList with
    | .some n => some (.number (.int n))
    | _ => none
  | some .float => float? s.text
  | some (.named (some _)) => none
  | some (.named none) => s.untaggedAtom?
  | some .other => some (.string s.text)

def isBare (s : Scalar) : Bool := s.style == .plain && s.text == ""

/-- Whether a scalar stands for an absent value; a tag for null on another text is a fault. -/
def absent? (s : Scalar) : Option Bool :=
  if s.style ≠ .plain then some false
  else
    match s.tag with
    | none => some (s.text == "" || isNullWord s.text)
    | some .null => if isNullWord s.text then some true else none
    | some _ => some false

def flag? (s : Scalar) : Option Bool :=
  -- Any tag is passed over on a plain text.
  if s.style = .plain ∨ (s.style = .literal ∧ s.tag = some .bool) then bool? s.text else none

end Scalar

end WorkflowGraph
