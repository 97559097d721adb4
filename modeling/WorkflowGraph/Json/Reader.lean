import WorkflowGraph.Json.Escape
import WorkflowGraph.Source.Basic
set_option autoImplicit false

namespace WorkflowGraph.Json.Reader

def isSpace (c : Char) : Bool := c == ' ' || c == '\n' || c == '\t' || c == '\r'

def skipSpaces (cs : List Char) : List Char := cs.dropWhile isSpace

/-- A source and what of the text follows it, nothing if reading stopped in it. -/
abbrev Piece := Source × Option (List Char)

def stop (onRead onSkip : Fault) : Piece := (.broken onRead onSkip, none)

def hexEscape (a b c d : Char) : Option Nat := wholeNumber? 16 [a, b, c, d]

def isHighSurrogate (n : Nat) : Bool := 0xD800 ≤ n && n < 0xDC00

def isLowSurrogate (n : Nat) : Bool := 0xDC00 ≤ n && n < 0xE000

/-- What a string is read into: the characters so far in reverse order, the first half of a
surrogate pair that waits for the second, and the first fault that only a reader minds. -/
structure Reading where
  done : List Char
  half : Option Nat
  unpaired : Bool

namespace Reading

def start : Reading := ⟨[], none, false⟩

def close (r : Reading) : Reading :=
  { r with half := none, unpaired := r.unpaired || r.half.isSome }

def push (r : Reading) (c : Char) : Reading := { r.close with done := c :: r.done }

def pushUnit (r : Reading) (n : Nat) : Reading :=
  match r.half with
  | some high =>
    if isLowSurrogate n then
      { r with
        done := Char.ofNat (0x10000 + (high - 0xD800) * 0x400 + (n - 0xDC00)) :: r.done
        half := none }
    else { r with half := none, unpaired := true }
  | none =>
    if isHighSurrogate n then { r with half := some n }
    else if isLowSurrogate n then { r with unpaired := true }
    else r.push (Char.ofNat n)

def fault (r : Reading) (other : Fault) : Fault := if r.unpaired then .malformed else other

def finish (r : Reading) (rest : List Char) : Piece :=
  let r := r.close
  if r.unpaired then (.skippable (.atom .null), some rest)
  else (.atom (.string (String.ofList r.done.reverse)), some rest)

end Reading

def string (r : Reading) : List Char → Piece
  | [] => stop (r.fault .truncated) .truncated
  | '"' :: rest => r.finish rest
  | '\\' :: 'u' :: a :: b :: c :: d :: rest =>
    match hexEscape a b c d with
    | some n => string (r.pushUnit n) rest
    | none =>
      let bytes := (String.ofList (a :: b :: c :: d :: rest)).utf8ByteSize
      let fault := if bytes < 4 then .truncated else .malformed
      stop (r.fault fault) fault
  | '\\' :: 'u' :: rest =>
    let fault := if (String.ofList rest).utf8ByteSize < 4 then .truncated else .malformed
    stop (r.fault fault) fault
  | ['\\'] => stop (r.fault .truncated) .truncated
  | '\\' :: c :: rest =>
    match unescape c with
    | some c => string (r.push c) rest
    | none => stop .malformed .malformed
  | c :: rest =>
    if c.toNat < 0x20 then stop .malformed .malformed else string (r.push c) rest

def number? (n : Numeral) (whole : Bool) : Option Json.Number :=
  let m := n.digits.foldl (fun m c => m * 10 + digitValue c) 0
  if whole && !n.negative && m < wordLimit then some (.int m)
  -- Minus zero is a floating value: as an integer it would lose its sign.
  else if whole && n.negative && 0 < m && m ≤ signedLimit then some (.int (-m))
  else n.scaled?.map .float

def finishNumber (n : Numeral) (whole : Bool) (rest : List Char) : Piece :=
  match number? n whole with
  | some found => (.atom (.number found), some rest)
  | none => (.skippable (.atom .null), some rest)

def exponent (n : Numeral) (negative : Bool) (cs : List Char) : Piece :=
  let digits := cs.takeWhile Text.isAsciiDigit
  match wholeNumber? 10 digits, cs with
  | some e, _ =>
    finishNumber { n with exponent := if negative then -(e : Int) else e } false
      (cs.dropWhile Text.isAsciiDigit)
  | none, [] => stop .truncated .malformed
  | none, _ => stop .malformed .malformed

def optionalExponent (n : Numeral) (whole : Bool) (cs : List Char) : Piece :=
  match cs with
  | c :: rest =>
    if c = 'e' ∨ c = 'E' then
      match rest with
      | '+' :: rest => exponent n false rest
      | '-' :: rest => exponent n true rest
      | rest => exponent n false rest
    else finishNumber n whole cs
  | [] => finishNumber n whole []

def afterWhole (negative : Bool) (digits : List Char) (cs : List Char) : Piece :=
  match cs with
  | '.' :: rest =>
    let fraction := rest.takeWhile Text.isAsciiDigit
    match fraction, rest with
    | [], [] => stop .truncated .malformed
    | [], _ => stop .malformed .malformed
    | _, _ =>
      optionalExponent ⟨negative, digits ++ fraction, fraction.length, 0⟩ false
        (rest.dropWhile Text.isAsciiDigit)
  | cs => optionalExponent ⟨negative, digits, 0, 0⟩ true cs

def number (negative : Bool) (cs : List Char) : Piece :=
  match cs with
  | [] => stop .truncated .malformed
  | '0' :: rest =>
    -- No digit may follow a leading zero.
    if rest.head?.any Text.isAsciiDigit then stop .malformed .malformed
    else afterWhole negative ['0'] rest
  | c :: _ =>
    if Text.isAsciiDigit c then
      afterWhole negative (cs.takeWhile Text.isAsciiDigit) (cs.dropWhile Text.isAsciiDigit)
    else stop .malformed .malformed

def keyword (a : Atom) : (word cs : List Char) → Piece
  | [], cs => (.atom a, some cs)
  | _ :: _, [] => stop .truncated .truncated
  | w :: word, c :: cs => if w = c then keyword a word cs else stop .malformed .malformed

def maxDepth : Nat := 127

def atDepth (depth : Nat) (s : Source) : Source := if depth < maxDepth then s else .skippable s

mutual
/-- Reads a value that stands inside `depth` collections. -/
def value : (fuel depth : Nat) → List Char → Piece
  | 0, _, _ => stop .malformed .malformed
  | fuel + 1, depth, cs =>
    match skipSpaces cs with
    | [] => stop .truncated .truncated
    | 'n' :: rest => keyword .null ['u', 'l', 'l'] rest
    | 't' :: rest => keyword (.bool true) ['r', 'u', 'e'] rest
    | 'f' :: rest => keyword (.bool false) ['a', 'l', 's', 'e'] rest
    | '"' :: rest => string .start rest
    | '-' :: rest => number true rest
    | '[' :: rest =>
      let (list, ending, rest) := items fuel (depth + 1) true rest
      (atDepth depth (.sequence list ending), rest)
    | '{' :: rest =>
      let (list, ending, rest) := members fuel (depth + 1) true rest
      (atDepth depth (.mapping list ending), rest)
    | c :: rest =>
      if Text.isAsciiDigit c then number false (c :: rest) else stop .malformed .malformed

def items : (fuel depth : Nat) → (first : Bool) → List Char →
    List Source × Ending × Option (List Char)
  | 0, _, _, _ => ([], .cut .malformed, none)
  | fuel + 1, depth, first, cs =>
    match skipSpaces cs, first with
    | [], _ => ([], .cut .truncated, none)
    | ']' :: rest, _ => ([], .closed, some rest)
    | ',' :: rest, false => item fuel depth rest
    | cs, true => item fuel depth cs
    | _, false => ([], .cut .malformed, none)

def item : (fuel depth : Nat) → List Char → List Source × Ending × Option (List Char)
  | 0, _, _ => ([], .cut .malformed, none)
  | fuel + 1, depth, cs =>
    match value fuel depth cs with
    | (s, none) => ([s], .closed, none)
    | (s, some rest) =>
      let (list, ending, rest) := items fuel depth false rest
      (s :: list, ending, rest)

def members : (fuel depth : Nat) → (first : Bool) → List Char →
    List (Source × Source) × Ending × Option (List Char)
  | 0, _, _, _ => ([], .cut .malformed, none)
  | fuel + 1, depth, first, cs =>
    match skipSpaces cs, first with
    | [], _ => ([], .cut .truncated, none)
    | '}' :: rest, _ => ([], .closed, some rest)
    | ',' :: rest, false => member fuel depth rest
    | cs, true => member fuel depth cs
    | _, false => ([], .cut .malformed, none)

def member : (fuel depth : Nat) → List Char →
    List (Source × Source) × Ending × Option (List Char)
  | 0, _, _ => ([], .cut .malformed, none)
  | fuel + 1, depth, cs =>
    let unread : Source := .broken .malformed .malformed
    match skipSpaces cs with
    | [] => ([(.broken .truncated .truncated, unread)], .closed, none)
    | '"' :: rest =>
      match string .start rest with
      | (key, none) => ([(key, unread)], .closed, none)
      | (key, some rest) =>
        match skipSpaces rest with
        | [] => ([(key, .broken .truncated .truncated)], .closed, none)
        | ':' :: rest =>
          match value fuel depth rest with
          | (s, none) => ([(key, s)], .closed, none)
          | (s, some rest) =>
            let (list, ending, rest) := members fuel depth false rest
            ((key, s) :: list, ending, rest)
        | _ => ([(key, unread)], .closed, none)
    | cs => ([(.misplaced (value fuel depth cs).1, unread)], .closed, none)
end

end Reader

/-- Reads a whole text. Of the value and what follows it, the value is judged first; after it only
blanks may stand. -/
def decode {α : Type} (read : Source → Decoding α) (text : String) : Except Fault α := do
  let cs := text.toList
  let (source, rest) := Reader.value (3 * cs.length + 3) 0 cs
  let a ← (read source).run' 0
  match rest with
  | some rest => if (Reader.skipSpaces rest).isEmpty then return a else .error .malformed
  | none => .error .malformed

def parse (text : String) : Except Fault Json := decode Source.value text

end WorkflowGraph.Json
