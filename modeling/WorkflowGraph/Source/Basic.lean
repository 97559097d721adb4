import WorkflowGraph.Source.Scalar
import WorkflowGraph.Json.Fields
set_option autoImplicit false

/-!
# Documents as a reader meets them

A source is the tree that a text spells, up to the point where reading the text fails: the place
of the failure is a node of the tree. A decoder walks the tree in the order of the text, so of a
wrong shape and a broken text the one that comes first is reported, and what it does not need it
passes over with `skip`, which is less strict. A node may stand for another node, which is followed
only where it is read; how often that may happen is limited.
-/
namespace WorkflowGraph

inductive Fault where
  /-- The text breaks the rules of its format. -/
  | malformed
  /-- The text ends early. -/
  | truncated
  /-- The text is well formed, but of another shape. -/
  | mismatch
deriving DecidableEq, Repr

/-- Reading a source, with the number of aliases that may still be followed. -/
abbrev Decoding := StateT Nat (Except Fault)

/-- How a collection ends: with its bracket, or with a failure where a separator should stand. -/
inductive Ending where
  | closed
  | cut (fault : Fault)

def Ending.check : Ending → Decoding Unit
  | .closed => return
  | .cut fault => throw fault

inductive Source where
  | atom (a : Atom)
  | scalar (s : Scalar)
  | sequence (items : List Source) (ending : Ending)
  | mapping (members : List (Source × Source)) (ending : Ending)
  /-- A collection with a name for a tag. -/
  | tagged (inner : Source)
  /-- A node that stands for another one, which may hold it in turn. -/
  | alias (node : Unit → Source)
  /-- A part of the text that may be passed over but has no value: a number out of range, a
  string with half a surrogate pair, a nesting too deep. -/
  | skippable (inner : Source)
  /-- A key that is no string but the start of this value. -/
  | misplaced (value : Source)
  /-- Here the text cannot be read on, with the fault for a reader and for one who passes over. -/
  | broken (onRead onSkip : Fault)

namespace Source

instance : Inhabited Source := ⟨.atom .null⟩

def fault : Source → Fault
  | .skippable _ => .malformed
  | .misplaced _ => .malformed
  | .broken onRead _ => onRead
  | _ => .mismatch

def countAlias : Decoding Unit := do
  match ← get with
  | 0 => throw .malformed
  | left + 1 => set left

/-- The node that is meant: the one that an alias stands for, and else the node itself. -/
def follow : Source → Decoding Source
  | .alias node => do
    countAlias
    return node ()
  | other => return other

mutual
def skip : Source → Decoding Unit
  | .atom _ => return
  | .scalar _ => return
  | .sequence items ending => do
    skipItems items
    ending.check
  | .mapping members ending => do
    skipMembers members
    ending.check
  | .tagged inner => skip inner
  | .alias _ => return
  | .skippable inner => skip inner
  | .misplaced _ => throw .malformed
  | .broken _ onSkip => throw onSkip

def skipItems : List Source → Decoding Unit
  | [] => return
  | item :: items => do
    skip item
    skipItems items

def skipMembers : List (Source × Source) → Decoding Unit
  | [] => return
  | (key, value) :: members => do
    skip key
    skip value
    skipMembers members
end

def text (s : Source) : Decoding String := do
  match ← s.follow with
  | .atom (.string s) => return s
  | .scalar s => return s.text
  | other => throw other.fault

def flag (s : Source) : Decoding Bool := do
  match ← s.follow with
  | .atom (.bool b) => return b
  | .scalar s =>
    match s.flag? with
    | some b => return b
    | none => throw .mismatch
  | other => throw other.fault

def word64 (s : Source) : Decoding Nat := do
  match ← s.follow with
  | .atom (.number (.int n)) => if 0 ≤ n then return n.toNat else throw .mismatch
  | other => throw other.fault

def number (s : Source) : Decoding Json.Number := do
  match ← s.follow with
  | .atom (.number n) => return n
  | other => throw other.fault

def ofAtom : Atom → Json
  | .null => .null
  | .bool b => .bool b
  | .number n => .number n
  | .nonFinite => .null
  | .string s => .string s

mutual
def value : Source → Decoding Json
  | .atom a => return ofAtom a
  | .scalar s =>
    match s.atom? with
    | some a => return ofAtom a
    | none => throw .mismatch
  | .sequence items ending => do
    let items ← itemValues items
    ending.check
    return .array items
  | .mapping members ending => do
    let members ← memberValues members
    ending.check
    return Json.ofMembers members
  | .alias node => do
    countAlias
    value (node ())
  | other => throw other.fault

def itemValues : List Source → Decoding (List Json)
  | [] => return []
  | item :: items => do
    let item ← value item
    let items ← itemValues items
    return item :: items

def memberValues : List (Source × Source) → Decoding (List (String × Json))
  | [] => return []
  | (key, item) :: members => do
    let key ← key.text
    let item ← value item
    let members ← memberValues members
    return (key, item) :: members
end

mutual
/-- Gives every scalar the kind it has when any will do, and fails where `value` would for lack
of one. What is left consists of atoms and closed collections. -/
def hold : Source → Decoding Source
  | .atom a => return .atom a
  | .scalar s =>
    match s.atom? with
    | some a => return .atom a
    | none => throw .mismatch
  | .sequence items ending => do
    let items ← holdItems items
    ending.check
    return .sequence items .closed
  | .mapping members ending => do
    let members ← holdMembers members
    ending.check
    return .mapping members .closed
  | .alias node => do
    countAlias
    hold (node ())
  | other => throw other.fault

def holdItems : List Source → Decoding (List Source)
  | [] => return []
  | item :: items => do
    let item ← hold item
    let items ← holdItems items
    return item :: items

def holdMembers : List (Source × Source) → Decoding (List (Source × Source))
  | [] => return []
  | (key, item) :: members => do
    let key ← hold key
    let item ← hold item
    let members ← holdMembers members
    return (key, item) :: members
end

mutual
def ofJson : Json → Source
  | .null => .atom .null
  | .bool b => .atom (.bool b)
  | .number n => .atom (.number n)
  | .string s => .atom (.string s)
  | .array items => .sequence (ofItems items) .closed
  | .object members => .mapping (ofMembers members) .closed

def ofItems : List Json → List Source
  | [] => []
  | item :: items => ofJson item :: ofItems items

def ofMembers : List (String × Json) → List (Source × Source)
  | [] => []
  | (key, item) :: members => (.atom (.string key), ofJson item) :: ofMembers members
end

def readValue {α : Type} (read : Source → Decoding α) (v : Json) : Except Fault α :=
  (read (ofJson v)).run' 0

def optional {α : Type} (read : Source → Decoding α) (s : Source) : Decoding (Option α) := do
  match ← s.follow with
  | .atom .null => return none
  | .scalar s =>
    match s.absent? with
    | some true => return none
    | some false => return some (← read (.scalar s))
    | none => throw .mismatch
  | other => return some (← read other)

def readAll {α : Type} (read : Source → Decoding α) : List Source → Decoding (List α)
  | [] => return []
  | item :: items => do
    let first ← read item
    let rest ← readAll read items
    return first :: rest

/-- A list of what `read` reads. A scalar of which nothing is written is the empty list. -/
def listOf {α : Type} (read : Source → Decoding α) (s : Source) : Decoding (List α) := do
  match ← s.follow with
  | .sequence items ending =>
    let items ← readAll read items
    ending.check
    return items
  | .tagged (.sequence items _) => readAll read items
  | .scalar s => if s.isBare then return [] else throw .mismatch
  | other => throw other.fault

def fields (s : Source) : Decoding Fields := do
  match ← s.follow with
  | .mapping members ending =>
    let members ← memberValues members
    ending.check
    return Fields.ofList members
  | .tagged (.mapping members _) => return Fields.ofList (← memberValues members)
  | .scalar s => if s.isBare then return {} else throw .mismatch
  | other => throw other.fault

end Source

end WorkflowGraph
