import WorkflowGraph.Yaml.Tag
set_option autoImplicit false

namespace WorkflowGraph.Yaml

def anchorName? (cs : List Char) : Option (String × List Char) :=
  let name := cs.takeWhile isNameChar
  let rest := cs.dropWhile isNameChar
  let ends := atGap rest || rest.head?.any fun c => c ∈ ['?', ':', ',', ']', '}', '%', '@', '\x60']
  if name.isEmpty || !ends then none else some (String.ofList name, rest)

inductive Directive where
  | version (major minor : Nat)
  | tag (handle : String) (stem : List UInt8)

def versionNumber? (cs : List Char) : Option (Nat × List Char) := do
  let digits := cs.takeWhile Text.isAsciiDigit
  let n ← wholeNumber? 10 digits
  if digits.length ≤ 9 then some (n, cs.dropWhile Text.isAsciiDigit) else none

def directiveHandle? : List Char → Option (String × List Char)
  | '!' :: rest =>
    let name := rest.takeWhile isNameChar
    match rest.dropWhile isNameChar with
    | '!' :: rest => some ("!" ++ String.ofList name ++ "!", rest)
    | rest => if name.isEmpty then some ("!", rest) else none
  | _ => none

/-- A directive from after its percent sign, with the blanks and the comment up to the end of its
line. -/
def directive? (cs : List Char) : Option (Directive × List Char) := do
  let name := String.ofList (cs.takeWhile isNameChar)
  let rest := cs.dropWhile isNameChar
  if !atGap rest then none
  let (directive, rest) ←
    if name = "YAML" then do
      let (major, rest) ← versionNumber? (rest.dropWhile isBlank)
      match rest with
      | '.' :: rest =>
        let (minor, rest) ← versionNumber? rest
        some (Directive.version major minor, rest)
      | _ => none
    else if name = "TAG" then do
      let (handle, rest) ← directiveHandle? (rest.dropWhile isBlank)
      if !rest.head?.any isBlank then none
      let rest := rest.dropWhile isBlank
      let (stem, rest) ← tagAddress? true rest.length rest
      if stem.isEmpty || !atGap rest then none
      else some (Directive.tag handle (beforeZero stem), rest)
    else none
  let rest := rest.dropWhile isBlank
  let rest := if rest.head? == some '#' then rest.dropWhile (!isBreak ·) else rest
  if atLineEnd rest then some (directive, ((break? rest).map (·.2)).getD rest) else none

inductive Gap where
  | blanks (text : List Char)
  /-- The first break, and those after it. -/
  | lines (first later : List Char)

/-- What a gap becomes: a single break a blank, and of several all but the first stay. -/
def Gap.fold : Gap → List Char
  | .blanks text => text
  | .lines ['\n'] [] => [' ']
  | .lines ['\n'] later => later
  | .lines first later => first ++ later

def Gap.isLines : Gap → Bool
  | .blanks _ => false
  | .lines _ _ => true

/-- The breaks of the lines up to the next character that is neither blank nor break, and its
column. A tab before `indent` is a fault. -/
def lineBreaks? (indent column : Nat) : List Char → Option (List Char × Nat × List Char)
  | [] => some ([], column, [])
  | '\r' :: '\n' :: rest => do
    let (breaks, column, rest) ← lineBreaks? indent 0 rest
    return ('\n' :: breaks, column, rest)
  | c :: rest =>
    if c == '\t' && column < indent then none
    else if isBlank c then lineBreaks? indent (column + 1) rest
    else if isBreak c then do
      let (breaks, column, rest) ← lineBreaks? indent 0 rest
      return ((if c == '\u2028' || c == '\u2029' then c else '\n') :: breaks, column, rest)
    else some ([], column, c :: rest)

/-- The gap at the start of a text, the column of what follows it if that stands on another line,
and the rest. -/
def gap? (indent : Nat) (cs : List Char) : Option (Gap × Option Nat × List Char) :=
  let blanks := cs.takeWhile isBlank
  let rest := cs.dropWhile isBlank
  match break? rest with
  | none => some (.blanks blanks, none, rest)
  | some (first, rest) => do
    let (later, column, rest) ← lineBreaks? indent 0 rest
    return (.lines first later, some column, rest)

def plainRun? (inFlow : Bool) : List Char → Option (List Char × List Char)
  | [] => some ([], [])
  | c :: rest =>
    if isBlank c || isBreak c then some ([], c :: rest)
    else if inFlow && c == ':' && rest.head?.any (· ∈ [',', '?', '[', ']', '{', '}']) then none
    else if c == ':' && atGap rest then some ([], c :: rest)
    else if inFlow && c ∈ [',', '[', ']', '{', '}'] then some ([], c :: rest)
    else (plainRun? inFlow rest).map fun p => (c :: p.1, p.2)

/-- A plain scalar from a place on where `pending` is the gap before it: its text, whether the gap
after it spans lines, and the rest. Outside flow collections a line that starts before `indent`
ends it. -/
def plain? (inFlow : Bool) (indent : Nat) :
    (fuel : Nat) → (pending : Gap) → (atLineStart : Bool) → List Char →
      Option (List Char × Bool × List Char)
  | 0, _, _, _ => none
  | fuel + 1, pending, atLineStart, cs =>
    if (atLineStart && atDocumentMarker cs) || cs.head? == some '#' then
      some ([], pending.isLines, cs)
    else do
      let (run, rest) ← plainRun? inFlow cs
      if rest.isEmpty || !atGap rest then return (run, run.isEmpty && pending.isLines, rest)
      let (gap, column, rest) ← gap? indent rest
      if !inFlow && column.any (· < indent) then return (run, true, rest)
      let (more, lines, rest) ← plain? inFlow indent fuel gap (column == some 0) rest
      return (run ++ (if more.isEmpty then [] else gap.fold) ++ more, lines, rest)

def escapeLetter? (c : Char) : Option Char :=
  match c with
  | '0' => some '\x00'
  | 'a' => some '\x07'
  | 'b' => some '\x08'
  | 't' => some '\t'
  | '\t' => some '\t'
  | 'n' => some '\n'
  | 'v' => some '\x0b'
  | 'f' => some '\x0c'
  | 'r' => some '\r'
  | 'e' => some '\x1b'
  | ' ' => some ' '
  | '"' => some '"'
  | '/' => some '/'
  | '\\' => some '\\'
  | 'N' => some '\x85'
  | '_' => some '\xa0'
  | 'L' => some '\u2028'
  | 'P' => some '\u2029'
  | _ => none

def escapeWidth? (c : Char) : Option Nat :=
  match c with
  | 'x' => some 2
  | 'u' => some 4
  | 'U' => some 8
  | _ => none

def escape? : List Char → Option (Char × List Char)
  | [] => none
  | c :: rest =>
    match escapeWidth? c with
    | none => (escapeLetter? c).map fun c => (c, rest)
    | some width => do
      let digits := rest.take width
      if digits.length < width then none
      let n ← wholeNumber? 16 digits
      if (0xD800 ≤ n && n ≤ 0xDFFF) || 0x10FFFF < n then none
      return (Char.ofNat n, rest.drop width)

/-- The characters of a quoted scalar up to a gap or its closing quote, and whether an escaped
break ended them. -/
def quotedRun? (quote : Char) : (fuel : Nat) → List Char → Option (List Char × Bool × List Char)
  | 0, _ => none
  | fuel + 1, cs =>
    match cs with
    | [] => some ([], false, [])
    | c :: rest =>
      if isBlank c || isBreak c then some ([], false, cs)
      else if c == quote then
        if quote == '\'' && rest.head? == some '\'' then do
          let (run, escaped, rest) ← quotedRun? quote fuel (rest.drop 1)
          return ('\'' :: run, escaped, rest)
        else some ([], false, cs)
      else if quote == '"' && c == '\\' then
        match break? rest with
        | some (_, rest) => some ([], true, rest)
        | none => do
          let (d, rest) ← escape? rest
          let (run, escaped, rest) ← quotedRun? quote fuel rest
          return (d :: run, escaped, rest)
      else do
        let (run, escaped, rest) ← quotedRun? quote fuel rest
        return (c :: run, escaped, rest)

def quoted? (quote : Char) : (fuel : Nat) → (atLineStart : Bool) → List Char →
    Option (List Char × List Char)
  | 0, _, _ => none
  | fuel + 1, atLineStart, cs => do
    if cs.isEmpty || (atLineStart && atDocumentMarker cs) then none
    let (run, escaped, rest) ← quotedRun? quote (fuel + 1) cs
    if !escaped && rest.head? == some quote then return (run, rest.drop 1)
    if escaped then
      let (breaks, column, rest) ← lineBreaks? 0 0 rest
      let (more, rest) ← quoted? quote fuel (column == 0) rest
      return (run ++ breaks ++ more, rest)
    else
      let (gap, column, rest) ← gap? 0 rest
      let (more, rest) ← quoted? quote fuel (column == some 0) rest
      return (run ++ gap.fold ++ more, rest)

inductive Chomping where
  | strip
  | clip
  | keep
deriving DecidableEq

def chomping? : List Char → Option (Chomping × List Char)
  | '+' :: rest => some (.keep, rest)
  | '-' :: rest => some (.strip, rest)
  | _ => none

def indentDigit? : List Char → Option (Nat × List Char)
  | c :: rest => if Text.isAsciiDigit c then some (digitValue c, rest) else none
  | [] => none

/-- The header of a block scalar up to the end of its line: how its end is treated and the
indentation it states, zero if none. -/
def blockHeader? (cs : List Char) : Option (Chomping × Nat × List Char) := do
  let (chomping, increment, rest) ← match chomping? cs with
    | some (chomping, rest) =>
      match indentDigit? rest with
      | some (0, _) => none
      | some (n, rest) => some (chomping, n, rest)
      | none => some (chomping, 0, rest)
    | none =>
      match indentDigit? cs with
      | some (0, _) => none
      | some (n, rest) =>
        match chomping? rest with
        | some (chomping, rest) => some (chomping, n, rest)
        | none => some (Chomping.clip, n, rest)
      | none => some (Chomping.clip, 0, cs)
  let rest := rest.dropWhile isBlank
  let rest := if rest.head? == some '#' then rest.dropWhile (!isBreak ·) else rest
  if atLineEnd rest then some (chomping, increment, ((break? rest).map (·.2)).getD rest) else none

/-- The breaks of empty lines, the column where the next line begins, and the widest indentation
met. Indentation is eaten up to `indent`, without limit while that is zero. -/
def blockBreaks? (indent column widest : Nat) :
    List Char → Option (List Char × Nat × Nat × List Char)
  | [] => some ([], column, max widest column, [])
  | '\r' :: '\n' :: rest => do
    let (breaks, result) ← blockBreaks? indent 0 (max widest column) rest
    return ('\n' :: breaks, result)
  | c :: rest =>
    let eats := indent == 0 || column < indent
    if eats && c == ' ' then blockBreaks? indent (column + 1) widest rest
    else if eats && c == '\t' then none
    else if isBreak c then do
      let (breaks, result) ← blockBreaks? indent 0 (max widest column) rest
      return ((if c == '\u2028' || c == '\u2029' then c else '\n') :: breaks, result)
    else some ([], column, max widest column, c :: rest)

/-- The lines of a block scalar. `leading` is the break before the line, `trailing` the breaks of
the empty lines after that, `afterBlank` whether the line before started with a blank. A folded
scalar joins two lines by a blank unless one of them starts with a blank. -/
def blockLines? (literal : Bool) (chomping : Chomping) (indent : Nat) :
    (fuel column : Nat) → (afterBlank : Bool) → (leading trailing : List Char) → List Char →
      Option (List Char × List Char)
  | 0, _, _, _, _, _ => none
  | fuel + 1, column, afterBlank, leading, trailing, cs =>
    if column ≠ indent || cs.isEmpty then
      let kept := match chomping with
        | .strip => []
        | .clip => leading
        | .keep => leading ++ trailing
      some (kept, cs)
    else do
      let blank := cs.head?.any isBlank
      let joined :=
        if !literal && leading == ['\n'] && !afterBlank && !blank then
          if trailing.isEmpty then [' '] else trailing
        else leading ++ trailing
      let line := cs.takeWhile (!isBreak ·)
      let rest := cs.dropWhile (!isBreak ·)
      let (leading, rest) := (break? rest).getD ([], rest)
      let (trailing, column, _, rest) ←
        blockBreaks? indent (if leading.isEmpty then column + line.length else 0) 0 rest
      let (more, rest) ← blockLines? literal chomping indent fuel column blank leading trailing rest
      return (joined ++ line ++ more, rest)

def block? (literal : Bool) (parent : Int) (cs : List Char) :
    Option (List Char × List Char) := do
  let (chomping, increment, rest) ← blockHeader? cs
  let stated := if increment = 0 then 0
    else if 0 ≤ parent then parent.toNat + increment else increment
  let (trailing, column, widest, rest) ← blockBreaks? stated 0 0 rest
  let indent := if stated = 0 then max widest (max (parent + 1).toNat 1) else stated
  blockLines? literal chomping indent (rest.length + 1) column false [] trailing rest

end WorkflowGraph.Yaml
