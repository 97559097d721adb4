import WorkflowGraph.Text.Blank
import WorkflowGraph.Text.Word
set_option autoImplicit false

/-!
# References to the state

Where a condition's text mentions the state: `state.` and a path, or `state` and a quoted name in
brackets, in both cases with no word character before it. The text is scanned from left to right;
after a mention the scan goes on behind it. Only the text counts, so a mention inside a quoted
literal is found too.
-/
namespace WorkflowGraph.Condition

open Text (startsName continuesName isWord isBlank)

def afterState? : List Char → Option (List Char)
  | 's' :: 't' :: 'a' :: 't' :: 'e' :: rest => some rest
  | _ => none

def identifier? : List Char → Option (List Char × List Char)
  | [] => none
  | c :: rest =>
    if startsName c then some (c :: rest.takeWhile continuesName, rest.dropWhile continuesName)
    else none

def innerSegments (cs : List Char) : List Char × List Char :=
  match cs with
  | '.' :: c :: rest =>
    if continuesName c then
      let more := innerSegments (rest.dropWhile continuesName)
      ('.' :: c :: rest.takeWhile continuesName ++ more.1, more.2)
    else ([], cs)
  | _ => ([], cs)
termination_by cs.length
decreasing_by
  have := (List.dropWhile_suffix continuesName (l := rest)).length_le
  simp
  omega

def dottedField? : List Char → Option (List Char × List Char)
  | '.' :: rest => identifier? rest
  | _ => none

/-- The path after `state`, as `.name.segment.segment`. -/
def dottedPath? (cs : List Char) : Option (List Char × List Char) :=
  match dottedField? cs with
  | some (name, rest) =>
    let inner := innerSegments rest
    some (name ++ inner.1, inner.2)
  | none => none

def isBracketName (c : Char) : Bool := !(c == '\'' || c == '"' || c == ']')

/-- The name of a field after `state`, as `['name']` with either quote at either end. -/
def bracketField? : List Char → Option (List Char × List Char)
  | '[' :: rest =>
    match Text.trimStart rest with
    | q :: rest =>
      let name := rest.takeWhile isBracketName
      if (q == '\'' || q == '"') && !name.isEmpty then
        match rest.dropWhile isBracketName with
        | q :: rest =>
          if q == '\'' || q == '"' then
            match Text.trimStart rest with
            | ']' :: rest => some (name, rest)
            | _ => none
          else none
        | [] => none
      else none
    | [] => none
  | _ => none

def anyField? (cs : List Char) : Option (List Char × List Char) :=
  (dottedField? cs).or (bracketField? cs)

/-- What `mention?` finds after the word `state`, from left to right. `inWord` says whether the
character before the text is a word character, and `taken` characters at the start of the text
belong to the mention before. -/
def scan (mention? : List Char → Option (List Char × List Char)) (inWord : Bool) (taken : Nat) :
    List Char → List (List Char)
  | [] => []
  | c :: rest =>
    match taken with
    | n + 1 => scan mention? (isWord c) n rest
    | 0 =>
      match if inWord then none else (afterState? (c :: rest)).bind mention? with
      | some (name, after) => name :: scan mention? (isWord c) (rest.length - after.length) rest
      | none => scan mention? (isWord c) 0 rest

def firsts {α : Type} [DecidableEq α] (xs : List α) : List α :=
  xs.foldl (fun kept x => if x ∈ kept then kept else kept ++ [x]) []

def mentions (mention? : List Char → Option (List Char × List Char)) (condition : String) :
    List String :=
  firsts ((scan mention? false 0 condition.toList).map String.ofList)

def statePaths (condition : String) : List String := mentions dottedPath? condition

def topLevelFields (condition : String) : List String := mentions dottedField? condition

def referencedFields (condition : String) : List String := mentions anyField? condition

end WorkflowGraph.Condition
