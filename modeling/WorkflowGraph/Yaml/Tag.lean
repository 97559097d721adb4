import WorkflowGraph.Number.Numeral
import WorkflowGraph.Source.Scalar
import WorkflowGraph.Yaml.Cursor
set_option autoImplicit false

namespace WorkflowGraph.Yaml

def bytesOf (cs : List Char) : List UInt8 := (String.ofList cs).toUTF8.toList

def coreStem : List UInt8 := bytesOf "tag:yaml.org,2002:".toList

/-- The tag that is written in full. A name follows an exclamation mark; the mark alone is a name,
too. -/
def tagOfBytes (bytes : List UInt8) : Tag :=
  let core := fun kind : String => coreStem ++ bytesOf kind.toList
  if bytes = core "null" then .null
  else if bytes = core "bool" then .bool
  else if bytes = core "int" then .int
  else if bytes = core "float" then .float
  else
    match bytes with
    | 0x21 :: name =>
      .named (String.fromUTF8? (ByteArray.mk (if name.isEmpty then bytes else name).toArray))
    | _ => .other

def isTagChar (verbatim : Bool) (c : Char) : Bool :=
  isNameChar c
    || c ∈ [';', '/', '?', ':', '@', '&', '=', '+', '$', '.', '!', '~', '*', '\'', '(', ')']
    || (verbatim && (c == ',' || c == '[' || c == ']'))

def escapedByte? : List Char → Option (UInt8 × List Char)
  | '%' :: a :: b :: rest => (wholeNumber? 16 [a, b]).map fun n => (n.toUInt8, rest)
  | _ => none

def continuing? (b : UInt8) : Option Nat :=
  if b < 0x80 then some 0
  else if 0xC0 ≤ b ∧ b < 0xE0 then some 1
  else if 0xE0 ≤ b ∧ b < 0xF0 then some 2
  else if 0xF0 ≤ b ∧ b < 0xF8 then some 3
  else none

def continuation? : Nat → List Char → Option (List UInt8 × List Char)
  | 0, cs => some ([], cs)
  | n + 1, cs => do
    let (b, rest) ← escapedByte? cs
    if b < 0x80 || 0xC0 ≤ b then none
    let (bytes, rest) ← continuation? n rest
    return (b :: bytes, rest)

/-- The escaped bytes of a character. They only need to have the pattern of one: they may spell a
surrogate or a number too large, or be longer than needed. -/
def escapedChar? (cs : List Char) : Option (List UInt8 × List Char) := do
  let (first, rest) ← escapedByte? cs
  let (bytes, rest) ← continuation? (← continuing? first) rest
  return (first :: bytes, rest)

def tagAddress? (verbatim : Bool) : (fuel : Nat) → List Char → Option (List UInt8 × List Char)
  | 0, cs => some ([], cs)
  | fuel + 1, cs =>
    match cs with
    | '%' :: _ => do
      let (bytes, rest) ← escapedChar? cs
      let (more, rest) ← tagAddress? verbatim fuel rest
      return (bytes ++ more, rest)
    | c :: rest =>
      if isTagChar verbatim c then do
        let (more, rest) ← tagAddress? verbatim fuel rest
        return (bytesOf [c] ++ more, rest)
      else some ([], cs)
    | [] => some ([], [])

def beforeZero (bytes : List UInt8) : List UInt8 := bytes.takeWhile (· ≠ 0)

/-- The parts of a tag with the handle that is a single mark. With nothing after it the mark is the
tag itself. -/
def withMark (address : List UInt8) : String × List UInt8 :=
  match beforeZero address with
  | [] => ("", bytesOf ['!'])
  | suffix => ("!", suffix)

def tagParts? (inFlow : Bool) (cs : List Char) : Option ((String × List UInt8) × List Char) := do
  let (parts, rest) ← match cs with
    | '<' :: rest =>
      let (address, rest) ← tagAddress? true rest.length rest
      match rest with
      | '>' :: rest => if address.isEmpty then none else some (("", beforeZero address), rest)
      | _ => none
    | cs =>
      let name := cs.takeWhile isNameChar
      match cs.dropWhile isNameChar with
      | '!' :: rest =>
        let (address, rest) ← tagAddress? false rest.length rest
        if address.isEmpty then none
        else some ((String.ofList ('!' :: name ++ ['!']), beforeZero address), rest)
      | rest =>
        let (address, rest) ← tagAddress? false rest.length rest
        some (withMark (bytesOf name ++ address), rest)
  if atGap rest || (inFlow && rest.head? == some ',') then some (parts, rest) else none

end WorkflowGraph.Yaml
