import WorkflowGraph.Yaml.Token
import WorkflowGraph.Yaml.Lexeme
set_option autoImplicit false

/-!
# The tokens of a YAML text

Cuts a text into tokens. Indentation opens and closes block collections. A key need not be marked
as one: where a key may stand its place is kept, and if a colon follows on the same line, at most
1024 bytes on, the token for the key is put there afterwards.
-/
namespace WorkflowGraph.Yaml

/-- A place where a key may have begun: the number of the token there, and where it is. -/
structure PossibleKey where
  /-- A key has to follow here. -/
  required : Bool
  position : Nat
  index : Nat
  line : Nat
  column : Nat

structure Lexer where
  /-- More than the number of characters of the text, which bounds every loop over it. -/
  bound : Nat
  cursor : Cursor
  tokens : Array Token
  /-- The column of the innermost block collection, -1 outside of any. -/
  indent : Int
  /-- The columns of the block collections around it. -/
  outer : List Int
  keyAllowed : Bool
  /-- The place where a key may have begun, for the innermost flow collection first; the last
  entry is for block context. -/
  keys : List (Option PossibleKey)

namespace Lexer

def start (cs : List Char) : Lexer := ⟨cs.length + 1, .start cs, #[], -1, [], true, [none]⟩

def inFlow (l : Lexer) : Bool := 1 < l.keys.length

def push (l : Lexer) (t : Token) : Lexer := { l with tokens := l.tokens.push t }

def skip (l : Lexer) (n : Nat) : Lexer := { l with cursor := l.cursor.advance n }

def skipWhile (l : Lexer) (test : Char → Bool) : Lexer :=
  l.skip (l.cursor.rest.takeWhile test).length

def moveTo (l : Lexer) (rest : List Char) : Lexer := { l with cursor := l.cursor.moveTo rest }

/-- Drops the places that are too far back for a key; one where a key has to follow is a fault. -/
def dropStale? (l : Lexer) : Option Lexer := do
  let keys ← l.keys.mapM fun key =>
    match key with
    | none => some none
    | some k =>
      if k.line < l.cursor.line || k.index + 1024 < l.cursor.index then
        if k.required then none else some none
      else some (some k)
  return { l with keys }

def dropKey? (l : Lexer) : Option Lexer :=
  match l.keys with
  | some k :: keys => if k.required then none else some { l with keys := none :: keys }
  | _ => some l

def saveKey? (l : Lexer) : Option Lexer :=
  if l.keyAllowed then do
    let required := !l.inFlow && l.indent == l.cursor.column
    let key : PossibleKey :=
      ⟨required, l.tokens.size, l.cursor.index, l.cursor.line, l.cursor.column⟩
    let l ← l.dropKey?
    return { l with keys := some key :: l.keys.drop 1 }
  else some l

def roll (l : Lexer) (column : Nat) (t : Token) (position : Nat) : Lexer :=
  if !l.inFlow && l.indent < column then
    { l with
      outer := l.indent :: l.outer
      indent := column
      tokens := l.tokens.insertIdxIfInBounds position t }
  else l

def closeDeeper (column : Int) (l : Lexer) : (outer : List Int) → Lexer
  | [] => l
  | i :: outer =>
    if column < l.indent then closeDeeper column { l.push .blockEnd with indent := i, outer } outer
    else l

def unroll (l : Lexer) (column : Int) : Lexer :=
  if l.inFlow then l else closeDeeper column l l.outer

/-- Passes over blanks, comments and breaks, and over a byte order mark at the start of a line,
which takes up a column. In block context a break allows a key; tabs are no indentation before a
key. -/
def skipGap (l : Lexer) : (fuel : Nat) → Lexer
  | 0 => l
  | fuel + 1 =>
    let l := if l.cursor.column = 0 ∧ l.cursor.rest.head? = some byteOrderMark then l.skip 1 else l
    let eats := fun c => c == ' ' || ((l.inFlow || !l.keyAllowed) && c == '\t')
    let l := l.skipWhile eats
    let l := if l.cursor.rest.head? == some '#' then l.skipWhile (!isBreak ·) else l
    match breakWidth? l.cursor.rest with
    | none => l
    | some width => skipGap { l.skip width with keyAllowed := l.keyAllowed || !l.inFlow } fuel

def finish? (l : Lexer) : Option Lexer := (l.unroll (-1)).dropKey?

def directive? (l : Lexer) : Option Lexer := do
  let l ← (l.unroll (-1)).dropKey?
  let (directive, rest) ← Yaml.directive? (l.cursor.rest.drop 1)
  let t : Token := match directive with
    | .version major minor => .versionDirective major minor
    | .tag handle stem => .tagDirective handle stem
  return { l with keyAllowed := false }.push t |>.moveTo rest

def documentMarker? (l : Lexer) (t : Token) : Option Lexer := do
  let l ← (l.unroll (-1)).dropKey?
  return { l with keyAllowed := false }.push t |>.skip 3

def flowStart? (l : Lexer) (t : Token) : Option Lexer := do
  let l ← l.saveKey?
  return { l with keys := none :: l.keys, keyAllowed := true }.push t |>.skip 1

def flowEnd? (l : Lexer) (t : Token) : Option Lexer := do
  let l ← l.dropKey?
  let keys := if l.inFlow then l.keys.drop 1 else l.keys
  return { l with keys, keyAllowed := false }.push t |>.skip 1

def flowEntry? (l : Lexer) : Option Lexer := do
  let l ← l.dropKey?
  return { l with keyAllowed := true }.push .flowEntry |>.skip 1

def rollHere? (l : Lexer) (t : Token) : Option Lexer :=
  if l.inFlow then some l
  else if l.keyAllowed then some (l.roll l.cursor.column t l.tokens.size)
  else none

def blockEntry? (l : Lexer) : Option Lexer := do
  let l ← l.rollHere? .blockSequenceStart
  let l ← l.dropKey?
  return { l with keyAllowed := true }.push .blockEntry |>.skip 1

def key? (l : Lexer) : Option Lexer := do
  let l ← l.rollHere? .blockMappingStart
  let l ← l.dropKey?
  return { l with keyAllowed := !l.inFlow }.push .key |>.skip 1

def value? (l : Lexer) : Option Lexer :=
  match l.keys with
  | some k :: keys =>
    let l := { l with tokens := l.tokens.insertIdxIfInBounds k.position .key }
    let l := l.roll k.column .blockMappingStart k.position
    some ({ l with keys := none :: keys, keyAllowed := false }.push .value |>.skip 1)
  | _ => do
    let l ← l.rollHere? .blockMappingStart
    return { l with keyAllowed := !l.inFlow }.push .value |>.skip 1

def named? (l : Lexer) (t : String → Token) : Option Lexer := do
  let l ← l.saveKey?
  let (name, rest) ← anchorName? (l.cursor.rest.drop 1)
  return { l with keyAllowed := false }.push (t name) |>.moveTo rest

def tag? (l : Lexer) : Option Lexer := do
  let l ← l.saveKey?
  let ((handle, suffix), rest) ← tagParts? l.inFlow (l.cursor.rest.drop 1)
  return { l with keyAllowed := false }.push (.tag handle suffix) |>.moveTo rest

def blockScalar? (l : Lexer) (literal : Bool) : Option Lexer := do
  let l ← l.dropKey?
  let (text, rest) ← block? literal l.indent (l.cursor.rest.drop 1)
  let style : ScalarStyle := if literal then .literal else .other
  return { l with keyAllowed := true }.push (.scalar (String.ofList text) style) |>.moveTo rest

def quotedScalar? (l : Lexer) (quote : Char) : Option Lexer := do
  let l ← l.saveKey?
  let rest := l.cursor.rest.drop 1
  let (text, rest) ← quoted? quote l.bound false rest
  return { l with keyAllowed := false }.push (.scalar (String.ofList text) .other) |>.moveTo rest

def plainScalar? (l : Lexer) : Option Lexer := do
  let l ← l.saveKey?
  let rest := l.cursor.rest
  let (text, lines, rest) ←
    plain? l.inFlow (l.indent + 1).toNat l.bound (.blanks []) false rest
  -- Behind a scalar that spans lines a key may begin.
  return { l with keyAllowed := lines }.push (.scalar (String.ofList text) .plain) |>.moveTo rest

def isIndicator (c : Char) : Bool :=
  c ∈ ['-', '?', ':', ',', '[', ']', '{', '}', '#', '&', '*', '!', '|', '>', '\'', '"', '%', '@',
    '\x60']

def token? (l : Lexer) : Option Lexer :=
  let atMargin := l.cursor.column == 0
  match l.cursor.rest with
  | [] => none
  | c :: rest =>
    if atMargin && c == '%' then l.directive?
    else if atMargin && atDocumentMarker (c :: rest) then
      l.documentMarker? (if c == '-' then .documentStart else .documentEnd)
    else if c == '[' then l.flowStart? .flowSequenceStart
    else if c == '{' then l.flowStart? .flowMappingStart
    else if c == ']' then l.flowEnd? .flowSequenceEnd
    else if c == '}' then l.flowEnd? .flowMappingEnd
    else if c == ',' then l.flowEntry?
    else if c == '-' && atGap rest then l.blockEntry?
    else if c == '?' && (l.inFlow || atGap rest) then l.key?
    else if c == ':' && (l.inFlow || atGap rest) then l.value?
    else if c == '*' then l.named? .alias
    else if c == '&' then l.named? .anchor
    else if c == '!' then l.tag?
    else if c == '|' && !l.inFlow then l.blockScalar? true
    else if c == '>' && !l.inFlow then l.blockScalar? false
    else if c == '\'' || c == '"' then l.quotedScalar? c
    else if !(isBlank c || isBreak c || isIndicator c)
        || (c == '-' && !rest.head?.any isBlank)
        || (!l.inFlow && (c == '?' || c == ':') && !atGap rest) then l.plainScalar?
    else none

def tokens? : (fuel : Nat) → Lexer → Option (List Token)
  | 0, _ => none
  | fuel + 1, l => do
    let l ← (l.skipGap l.bound).dropStale?
    if l.cursor.rest.isEmpty then return (← l.finish?).tokens.toList
    let l ← (l.unroll l.cursor.column).token?
    tokens? fuel l

end Lexer

def tokenize? (text : String) : Option (List Token) :=
  let cs := text.toList
  if cs.all isAllowed then (Lexer.start cs).tokens? (cs.length + 1) else none

end WorkflowGraph.Yaml
