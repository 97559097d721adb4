import WorkflowGraph.Text.Blank
import WorkflowGraph.Text.Pieces
import WorkflowGraph.Text.Word
set_option autoImplicit false

namespace WorkflowGraph.EnvFile

abbrev Variables := List (String × String)

def Variables.get? (vars : Variables) (name : String) : Option String :=
  (vars.find? (·.1 = name)).map (·.2)

/-- The value that stands for a name: what follows the name and an equals sign in an entry
`name=value`, so that a name may go on into the value. Nothing for a name without a value. -/
def Variables.expand (vars : Variables) (name : List Char) : List Char :=
  (vars.findSome? fun e =>
    (name ++ ['=']).isPrefixOf? (e.1.toList ++ '=' :: e.2.toList)).getD []

def escaped? (c : Char) : Option Char :=
  match c with
  | '\\' | '\'' | '"' | '$' | ' ' => some c
  | 'n' => some '\n'
  | _ => none

def endsLine : List Char → Bool
  | [] => true
  | c :: rest => if c == ' ' || c == '\t' then endsLine rest else c == '#'

def singleQuoted? (cs : List Char) : Option (List Char × List Char) :=
  match cs.dropWhile (· != '\'') with
  | _ :: rest => some (cs.takeWhile (· != '\''), rest)
  | [] => none

def braced? (cs : List Char) : Option (List Char × List Char) :=
  match cs.dropWhile (· != '}') with
  | _ :: rest => some (cs.takeWhile (· != '}'), rest)
  | [] => none

/-- The text of a value; `quoted` inside double quotes. The character after a name without braces
stands for itself. A backslash at the very end says nothing. -/
def value? (vars : Variables) : (fuel : Nat) → (quoted : Bool) → List Char → Option (List Char)
  | 0, _, _ => none
  | _ + 1, quoted, [] => if quoted then none else some []
  | fuel + 1, quoted, '$' :: rest =>
    match rest with
    | '{' :: rest => do
      let (name, rest) ← braced? rest
      return vars.expand name ++ (← value? vars fuel quoted rest)
    | rest =>
      let value := vars.expand (rest.takeWhile Text.isAlphanumeric)
      match rest.dropWhile Text.isAlphanumeric with
      | '$' :: rest => (value? vars fuel quoted ('$' :: rest)).map (value ++ ·)
      | c :: rest => (value? vars fuel quoted rest).map (value ++ c :: ·)
      | [] => (value? vars fuel quoted []).map (value ++ ·)
  | fuel + 1, quoted, '\\' :: rest =>
    match rest with
    | [] => value? vars fuel quoted []
    | c :: rest => do
      let c ← escaped? c
      return c :: (← value? vars fuel quoted rest)
  | fuel + 1, true, '"' :: rest => value? vars fuel false rest
  | fuel + 1, true, c :: rest => (value? vars fuel true rest).map (c :: ·)
  | fuel + 1, false, '"' :: rest => value? vars fuel true rest
  | fuel + 1, false, '\'' :: rest => do
    let (text, rest) ← singleQuoted? rest
    return text ++ (← value? vars fuel false rest)
  | fuel + 1, false, c :: rest =>
    if c == ' ' || c == '\t' then if endsLine rest then some [] else none
    else (value? vars fuel false rest).map (c :: ·)

def name? (cs : List Char) : Option (List Char × List Char) :=
  match cs with
  | c :: _ =>
    if Text.isAsciiLetter c || c == '_' then
      let inName := fun c => Text.isAsciiLetter c || Text.isAsciiDigit c || c == '_' || c == '.'
      some (cs.takeWhile inName, cs.dropWhile inName)
    else none
  | [] => none

def afterEquals? (cs : List Char) : Option (List Char) :=
  match Text.trimStart cs with
  | '=' :: rest => some (Text.trimStart rest)
  | _ => none

inductive Line where
  | empty
  | assignment (name value : String)
  | broken

def line (vars : Variables) (cs : List Char) : Line :=
  match Text.trim cs with
  | [] => .empty
  | '#' :: _ => .empty
  | cs =>
    let assignment? : Option Line := do
      let (name, rest) ← name? cs
      let (name, rest) ← match afterEquals? rest with
        | some rest => some (name, rest)
        | none =>
          if name = "export".toList then do
            let (name, rest) ← name? (Text.trimStart rest)
            let rest ← afterEquals? rest
            some (name, rest)
          else none
      let value ←
        if rest.isEmpty || rest.head? == some '#' then some []
        else value? vars (rest.length + 1) false rest
      return .assignment (String.ofList name) (String.ofList value)
    assignment?.getD .broken

/-- The variables after the lines of a file. The environment's own values stay. No variable can hold
a zero character; nothing if one would have to. -/
def addLines? (vars : Variables) : List (List Char) → Option Variables
  | [] => some vars
  | cs :: rest =>
    match line vars cs with
    | .empty => addLines? vars rest
    | .assignment name value =>
      if (vars.get? name).isSome then addLines? vars rest
      else if '\x00' ∈ value.toList then none
      else addLines? ((name, value) :: vars) rest
    | .broken => some vars

def load? (environment : Variables) (file? : Option String) : Option Variables :=
  match file? with
  | none => some environment
  | some text => addLines? environment (Text.pieces '\n' text.toList)

/-- The names of variables that a file can mention: its runs of letters and digits, with `_` and
dots and without, and what stands in braces before an equals sign. -/
def mentioned (text : String) : List String :=
  let cs := text.toList
  let runs := fun inRun : Char → Bool =>
    (cs.splitBy fun a b => inRun a == inRun b).filter (·.head?.any inRun)
  let braced := (Text.pieces '{' cs).map (·.takeWhile fun c => c != '}' && c != '=')
  (runs Text.isAlphanumeric ++ runs (fun c => Text.isAlphanumeric c || c == '_' || c == '.')
    ++ braced).map String.ofList

end WorkflowGraph.EnvFile
