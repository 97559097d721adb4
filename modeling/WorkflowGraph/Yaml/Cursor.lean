set_option autoImplicit false

namespace WorkflowGraph.Yaml

def isAllowed (c : Char) : Bool :=
  let n := c.toNat
  n == 0x09 || n == 0x0A || n == 0x0D || (0x20 ≤ n && n ≤ 0x7E) || n == 0x85
    || (0xA0 ≤ n && n ≤ 0xD7FF) || (0xE000 ≤ n && n ≤ 0xFFFD) || 0x10000 ≤ n

def isBlank (c : Char) : Bool := c == ' ' || c == '\t'

def isBreak (c : Char) : Bool :=
  c == '\n' || c == '\r' || c == '\x85' || c == '\u2028' || c == '\u2029'

def byteOrderMark : Char := '\uFEFF'

def isNameChar (c : Char) : Bool :=
  ('0' ≤ c && c ≤ '9') || ('A' ≤ c && c ≤ 'Z') || ('a' ≤ c && c ≤ 'z') || c == '_' || c == '-'

def atGap (cs : List Char) : Bool := cs.head?.all fun c => isBlank c || isBreak c

def atLineEnd (cs : List Char) : Bool := cs.head?.all isBreak

def atDocumentMarker : List Char → Bool
  | '-' :: '-' :: '-' :: rest => atGap rest
  | '.' :: '.' :: '.' :: rest => atGap rest
  | _ => false

def break? : List Char → Option (List Char × List Char)
  | '\r' :: '\n' :: rest => some (['\n'], rest)
  | c :: rest =>
    if c == '\u2028' || c == '\u2029' then some ([c], rest)
    else if isBreak c then some (['\n'], rest)
    else none
  | [] => none

def breakWidth? : List Char → Option Nat
  | '\r' :: '\n' :: _ => some 2
  | c :: _ => if isBreak c then some 1 else none
  | [] => none

structure Cursor where
  rest : List Char
  index : Nat
  line : Nat
  column : Nat

namespace Cursor

def start (cs : List Char) : Cursor := ⟨cs, 0, 0, 0⟩

/-- Passes over characters; the two characters of a break that has two end one line. -/
def advance (p : Cursor) : Nat → Cursor
  | 0 => p
  | n + 1 =>
    match p.rest with
    | [] => p
    | '\r' :: '\n' :: rest => advance ⟨'\n' :: rest, p.index + 1, p.line, p.column⟩ n
    | c :: rest =>
      if isBreak c then advance ⟨rest, p.index + c.utf8Size, p.line + 1, 0⟩ n
      else advance ⟨rest, p.index + c.utf8Size, p.line, p.column + 1⟩ n

def moveTo (p : Cursor) (rest : List Char) : Cursor := p.advance (p.rest.length - rest.length)

end Cursor

end WorkflowGraph.Yaml
