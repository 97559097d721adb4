import WorkflowGraph.Yaml.Tag
import WorkflowGraph.Yaml.Token
set_option autoImplicit false

namespace WorkflowGraph.Yaml

/-- The tree of a document. `α` names the anchors. -/
inductive Tree (α : Type) where
  | alias (anchor : α)
  | scalar (anchor : Option α) (s : Scalar)
  | sequence (anchor : Option α) (tag : Option Tag) (items : List (Tree α))
  | mapping (anchor : Option α) (tag : Option Tag) (members : List (Tree α × Tree α))

namespace Tree

def nothing {α : Type} : Tree α := .scalar none ⟨"", .plain, none⟩

instance {α : Type} : Inhabited (Tree α) := ⟨nothing⟩

abbrev Stems := List (String × List UInt8)

def defaultStems : Stems := [("!", bytesOf ['!']), ("!!", coreStem)]

def tag? (stems : Stems) (handle : String) (suffix : List UInt8) : Option Tag :=
  if handle.isEmpty then some (tagOfBytes suffix)
  else (stems.find? (·.1 = handle)).map fun e => tagOfBytes (e.2 ++ suffix)

structure Properties where
  anchor : Option String
  tag : Option Tag

def properties? (stems : Stems) : List Token → Option (Properties × List Token)
  | .anchor name :: .tag handle suffix :: rest =>
    (tag? stems handle suffix).map fun tag => (⟨some name, some tag⟩, rest)
  | .anchor name :: rest => some (⟨some name, none⟩, rest)
  | .tag handle suffix :: .anchor name :: rest =>
    (tag? stems handle suffix).map fun tag => (⟨some name, some tag⟩, rest)
  | .tag handle suffix :: rest =>
    (tag? stems handle suffix).map fun tag => (⟨none, some tag⟩, rest)
  | rest => some (⟨none, none⟩, rest)

def ofScalar (p : Properties) (text : String) (style : ScalarStyle) : Tree String :=
  .scalar p.anchor ⟨text, style, p.tag⟩

def ofProperties? (p : Properties) : Option (Tree String) :=
  if p.anchor.isSome || p.tag.isSome then some (ofScalar p "" .plain) else none

structure Place where
  /-- The tokens that say that the node is left out. -/
  stops : List Token
  /-- The node may be a block collection. -/
  block : Bool
  /-- The node may be a block sequence that is indented no deeper than the key before it. -/
  indentless : Bool

namespace Place

def document : Place := ⟨[], true, false⟩

def blockItem : Place := ⟨[.blockEntry, .blockEnd], true, false⟩

def indentlessItem : Place := ⟨[.blockEntry, .key, .value, .blockEnd], true, false⟩

def blockMember : Place := ⟨[.key, .value, .blockEnd], true, true⟩

def flow (stops : List Token) : Place := ⟨stops, false, false⟩

end Place

mutual
def node? (stems : Stems) :
    (fuel : Nat) → Place → List Token → Option (Tree String × List Token)
  | 0, _, _ => none
  | fuel + 1, place, tokens =>
    if tokens.head?.any (· ∈ place.stops) then some (nothing, tokens)
    else
      match tokens with
      | .alias name :: rest => some (.alias name, rest)
      | tokens => do
        let (p, tokens) ← properties? stems tokens
        match tokens, place.block, place.indentless with
        | .scalar text style :: rest, _, _ => return (ofScalar p text style, rest)
        | .flowSequenceStart :: rest, _, _ =>
          let (items, rest) ← flowItems? stems fuel true rest
          return (.sequence p.anchor p.tag items, rest)
        | .flowMappingStart :: rest, _, _ =>
          let (members, rest) ← flowMembers? stems fuel true rest
          return (.mapping p.anchor p.tag members, rest)
        | .blockSequenceStart :: rest, true, _ =>
          let (items, rest) ← blockItems? stems fuel rest
          return (.sequence p.anchor p.tag items, rest)
        | .blockMappingStart :: rest, true, _ =>
          let (members, rest) ← blockMembers? stems fuel rest
          return (.mapping p.anchor p.tag members, rest)
        | .blockEntry :: rest, _, true =>
          let (items, rest) ← indentlessItems? stems fuel (.blockEntry :: rest)
          return (.sequence p.anchor p.tag items, rest)
        | rest, _, _ => return (← ofProperties? p, rest)

def blockItems? (stems : Stems) :
    (fuel : Nat) → List Token → Option (List (Tree String) × List Token)
  | 0, _ => none
  | fuel + 1, .blockEntry :: rest => do
    let (item, rest) ← node? stems fuel .blockItem rest
    let (items, rest) ← blockItems? stems fuel rest
    return (item :: items, rest)
  | _ + 1, .blockEnd :: rest => some ([], rest)
  | _ + 1, _ => none

def indentlessItems? (stems : Stems) :
    (fuel : Nat) → List Token → Option (List (Tree String) × List Token)
  | 0, _ => none
  | fuel + 1, .blockEntry :: rest => do
    let (item, rest) ← node? stems fuel .indentlessItem rest
    let (items, rest) ← indentlessItems? stems fuel rest
    return (item :: items, rest)
  | _ + 1, rest => some ([], rest)

def blockMembers? (stems : Stems) :
    (fuel : Nat) → List Token → Option (List (Tree String × Tree String) × List Token)
  | 0, _ => none
  | fuel + 1, .key :: rest => do
    let (key, rest) ← node? stems fuel .blockMember rest
    let (value, rest) ← match rest with
      | .value :: rest => node? stems fuel .blockMember rest
      | rest => some (nothing, rest)
    let (members, rest) ← blockMembers? stems fuel rest
    return ((key, value) :: members, rest)
  | _ + 1, .blockEnd :: rest => some ([], rest)
  | _ + 1, _ => none

/-- The items of a flow sequence up to its bracket. An item may be a mapping of one member without
braces. -/
def flowItems? (stems : Stems) :
    (fuel : Nat) → (first : Bool) → List Token → Option (List (Tree String) × List Token)
  | 0, _, _ => none
  | fuel + 1, first, tokens =>
    match tokens with
    | .flowSequenceEnd :: rest => some ([], rest)
    | tokens => do
      let tokens ← match first, tokens with
        | true, tokens => some tokens
        | false, .flowEntry :: rest => some rest
        | false, _ => none
      match tokens with
      | .flowSequenceEnd :: rest => return ([], rest)
      | .key :: rest =>
        let (item, rest) ← pair? stems fuel rest
        let (items, rest) ← flowItems? stems fuel false rest
        return (item :: items, rest)
      | rest =>
        let (item, rest) ← node? stems fuel (.flow []) rest
        let (items, rest) ← flowItems? stems fuel false rest
        return (item :: items, rest)

/-- A mapping of one member, from after the token for its key. With the key left out the token
that says so is used up. -/
def pair? (stems : Stems) : (fuel : Nat) → List Token → Option (Tree String × List Token)
  | 0, _ => none
  | fuel + 1, tokens => do
    let place := Place.flow [.value, .flowEntry, .flowSequenceEnd]
    let (key, rest) ←
      if tokens.head?.any (· ∈ place.stops) then some (nothing, tokens.drop 1)
      else node? stems fuel place tokens
    let (value, rest) ← match rest with
      | .value :: rest => node? stems fuel (.flow [.flowEntry, .flowSequenceEnd]) rest
      | rest => some (nothing, rest)
    return (.mapping none none [(key, value)], rest)

def flowMembers? (stems : Stems) :
    (fuel : Nat) → (first : Bool) → List Token →
      Option (List (Tree String × Tree String) × List Token)
  | 0, _, _ => none
  | fuel + 1, first, tokens =>
    match tokens with
    | .flowMappingEnd :: rest => some ([], rest)
    | tokens => do
      let tokens ← match first, tokens with
        | true, tokens => some tokens
        | false, .flowEntry :: rest => some rest
        | false, _ => none
      match tokens with
      | .flowMappingEnd :: rest => return ([], rest)
      | .key :: rest =>
        let (key, rest) ← node? stems fuel (.flow [.value, .flowEntry, .flowMappingEnd]) rest
        let (value, rest) ← match rest with
          | .value :: rest => node? stems fuel (.flow [.flowEntry, .flowMappingEnd]) rest
          | rest => some (nothing, rest)
        let (members, rest) ← flowMembers? stems fuel false rest
        return ((key, value) :: members, rest)
      | rest =>
        let (key, rest) ← node? stems fuel (.flow []) rest
        let (members, rest) ← flowMembers? stems fuel false rest
        return ((key, nothing) :: members, rest)
end

/-- The directives before a document: at most one for the version, which has to be 1.1 or 1.2, and
at most one for each handle of tags. -/
def directives? (versioned : Bool) (stems : Stems) : List Token → Option (Stems × List Token)
  | .versionDirective major minor :: rest =>
    if versioned || major != 1 || (minor != 1 && minor != 2) then none
    else directives? true stems rest
  | .tagDirective handle stem :: rest =>
    if stems.any (·.1 = handle) then none
    else directives? versioned (stems ++ [(handle, stem)]) rest
  | rest => some (stems ++ defaultStems, rest)

def isBoundary : Token → Bool
  | .versionDirective _ _ | .tagDirective _ _ | .documentStart | .documentEnd => true
  | _ => false

/-- The only document among the tokens. The start of a document need not be marked unless
directives stand before it; without any tokens there is an empty one. -/
def ofTokens? (tokens : List Token) : Option (Tree String) := do
  let fuel := 3 * tokens.length + 3
  let (tree, rest) ← match tokens with
    | [] => some (nothing, [])
    | first :: _ =>
      if isBoundary first && first != .documentEnd then do
        let (stems, rest) ← directives? false [] tokens
        match rest with
        | .documentStart :: rest =>
          if rest.head?.all isBoundary then some (nothing, rest)
          else node? stems fuel .document rest
        | _ => none
      else node? defaultStems fuel .document tokens
  if (rest.dropWhile (· == .documentEnd)).isEmpty then some tree else none

end Tree

end WorkflowGraph.Yaml
