import WorkflowGraph.Source.Basic
set_option autoImplicit false

namespace WorkflowGraph

/-- Where a source comes from, which decides on the shorter spellings that a reader accepts. -/
inductive Dialect where
  /-- JSON text, read as it is met. -/
  | streamed
  /-- A part of a document that was read whole before it was given its shape. -/
  | held
  /-- A value at hand. -/
  | stored
  /-- YAML text. -/
  | yaml
deriving DecidableEq

/-- Reads a value out of named parts. The named readers check the parts in the order of the text,
then `build` takes the value from them. -/
structure RecordReader (α : Type) where
  parts : List (String × (Source → Decoding Unit))
  build : (String → Option Source) → Decoding α

namespace RecordReader

def pure {α : Type} (a : α) : RecordReader α := ⟨[], fun _ => return a⟩

def map {α β : Type} (f : α → β) (r : RecordReader α) : RecordReader β :=
  ⟨r.parts, fun find => f <$> r.build find⟩

def andPart {α β : Type} (f : RecordReader (α → β)) (name : String)
    (read : Source → Decoding α) (absent : Decoding α) : RecordReader β where
  parts := f.parts ++ [(name, fun s => discard (read s))]
  build find := do
    let f ← f.build find
    let a ← match find name with
      | some s => read s
      | none => absent
    return f a

def required {α β : Type} (f : RecordReader (α → β)) (name : String)
    (read : Source → Decoding α) : RecordReader β :=
  f.andPart name read (throw .mismatch)

def withDefault {α β : Type} (f : RecordReader (α → β)) (name : String)
    (read : Source → Decoding α) (default : α) : RecordReader β :=
  f.andPart name read (return default)

variable {α : Type}

/-- The part that a key names, if any. An integer names a part by its place. -/
def partOf (r : RecordReader α) (key : Source) :
    Decoding (Option (String × (Source → Decoding Unit))) :=
  match key with
  | .atom (.number (.int n)) => if 0 ≤ n then return r.parts[n.toNat]? else throw .mismatch
  | key => do
    let name ← key.text
    return r.parts.find? (·.1 = name)

def gather (r : RecordReader α) (seen : List (String × Source)) :
    List (Source × Source) → Decoding (List (String × Source))
  | [] => return seen
  | (key, item) :: members => do
    match ← r.partOf key with
    | none =>
      item.skip
      r.gather seen members
    | some (name, check) =>
      if seen.any (·.1 = name) then throw .mismatch
      else
        check item
        r.gather ((name, item) :: seen) members

def gatherItems : List (String × (Source → Decoding Unit)) → List Source →
    Decoding (List (String × Source))
  | (name, check) :: parts, item :: items => do
    check item
    let rest ← gatherItems parts items
    return (name, item) :: rest
  | _, _ => return []

/-- Takes the value from parts that were checked with `left` aliases to follow. The aliases in them
were counted then and are not counted again. -/
def finish (r : RecordReader α) (left : Nat) (seen : List (String × Source)) : Decoding α :=
  ((r.build fun name => (seen.find? (·.1 = name)).map (·.2)).run' left : Except Fault α)

def ofMembers (r : RecordReader α) (members : List (Source × Source)) (ending : Ending) :
    Decoding α := do
  let left ← get
  let seen ← r.gather [] members
  ending.check
  r.finish left seen

/-- A record as a list of its parts. Items in excess are a fault, in a streamed text one of the
text. -/
def ofSequence (r : RecordReader α) (dialect : Dialect) (items : List Source) (ending : Ending) :
    Decoding α := do
  let left ← get
  let seen ← gatherItems r.parts items
  if items.length < r.parts.length then ending.check
  let a ← r.finish left seen
  if r.parts.length < items.length then
    throw (if dialect = .streamed then .malformed else .mismatch)
  else
    ending.check
    return a

def read (r : RecordReader α) (dialect : Dialect) (s : Source) : Decoding α := do
  match ← s.follow with
  | .mapping members ending => r.ofMembers members ending
  | .sequence items ending =>
    if dialect = .yaml then throw .mismatch else r.ofSequence dialect items ending
  | .tagged (.mapping members ending) => r.ofMembers members ending
  | .scalar s => if s.isBare then r.finish 0 [] else throw .mismatch
  | other => throw other.fault

end RecordReader

namespace Source

def word {α : Type} (words : List (String × α)) (name : String) : Decoding α :=
  match words.find? (·.1 = name) with
  | some (_, a) => return a
  | none => throw .mismatch

def nothing : Source → Decoding Unit
  | .atom .null => return
  | other => throw other.fault

/-- A word of a list. Outside YAML it may also be spelled as a mapping with the word as its only
key and nothing as the item, in YAML as the name of a tag on nothing. -/
def variant {α : Type} (words : List (String × α)) (dialect : Dialect) (s : Source) :
    Decoding α := do
  match ← s.follow with
  | .atom (.string name) => word words name
  | .scalar s =>
    match s.name? with
    | none => word words s.text
    | some name =>
      let a ← word words name
      if s.style = .plain ∧ (s.text = "" ∨ Scalar.isNullWord s.text) then return a
      else throw .mismatch
  | .mapping members ending =>
    match dialect, members with
    | .yaml, _ => throw .mismatch
    | .streamed, [] =>
      match ending with
      | .closed => throw .malformed
      | .cut fault => throw fault
    | .streamed, (.misplaced value, _) :: _ => throw value.fault
    | .streamed, (key, item) :: more =>
      let a ← word words (← key.text)
      item.nothing
      match more, ending with
      | [], .closed => return a
      | [], .cut .truncated => throw .truncated
      | _, _ => throw .malformed
    | _, [(key, item)] =>
      let a ← match key with
        | .atom (.number (.int n)) =>
          match if 0 ≤ n then words[n.toNat]? else none with
          | some (_, a) => Pure.pure a
          | none => throw .mismatch
        | key => word words (← key.text)
      match dialect, item with
      | .held, .mapping [] _ => return a
      | _, item =>
        item.nothing
        return a
    | _, _ => throw .mismatch
  | other =>
    match dialect, other with
    | _, .broken onRead _ => throw onRead
    | .streamed, _ => throw .malformed
    | _, _ => throw .mismatch

end Source

end WorkflowGraph
