import WorkflowGraph.Yaml.Tree
set_option autoImplicit false

namespace WorkflowGraph.Yaml.Tree

abbrev Names := List (String × Nat)

def Names.declare (names : Names) (name : String) : Names :=
  (name, names.length) :: names.filter (·.1 ≠ name)

def Names.enter (names : Names) : Option String → Names × Option Nat
  | none => (names, none)
  | some name => (names.declare name, some names.length)

mutual
/-- Replaces the names of anchors by their numbers, in the order of the text. An alias for a name
that was not met before is a fault. -/
def number? (names : Names) : Tree String → Option (Tree Nat × Names)
  | .alias name => (names.find? (·.1 = name)).map fun e => (.alias e.2, names)
  | .scalar anchor s =>
    let (names, anchor) := names.enter anchor
    some (.scalar anchor s, names)
  | .sequence anchor tag items => do
    let (names, anchor) := names.enter anchor
    let (items, names) ← numberItems? names items
    return (.sequence anchor tag items, names)
  | .mapping anchor tag members => do
    let (names, anchor) := names.enter anchor
    let (members, names) ← numberMembers? names members
    return (.mapping anchor tag members, names)

def numberItems? (names : Names) : List (Tree String) → Option (List (Tree Nat) × Names)
  | [] => some ([], names)
  | item :: items => do
    let (item, names) ← number? names item
    let (items, names) ← numberItems? names items
    return (item :: items, names)

def numberMembers? (names : Names) :
    List (Tree String × Tree String) → Option (List (Tree Nat × Tree Nat) × Names)
  | [] => some ([], names)
  | (key, value) :: members => do
    let (key, names) ← number? names key
    let (value, names) ← number? names value
    let (members, names) ← numberMembers? names members
    return ((key, value) :: members, names)
end

mutual
def anchored : Tree Nat → List (Nat × Tree Nat)
  | .alias _ => []
  | .scalar anchor s => (anchor.map fun n => (n, Tree.scalar anchor s)).toList
  | .sequence anchor tag items =>
    (anchor.map fun n => (n, Tree.sequence anchor tag items)).toList ++ anchoredItems items
  | .mapping anchor tag members =>
    (anchor.map fun n => (n, Tree.mapping anchor tag members)).toList ++ anchoredMembers members

def anchoredItems : List (Tree Nat) → List (Nat × Tree Nat)
  | [] => []
  | item :: items => anchored item ++ anchoredItems items

def anchoredMembers : List (Tree Nat × Tree Nat) → List (Nat × Tree Nat)
  | [] => []
  | (key, value) :: members => anchored key ++ anchored value ++ anchoredMembers members
end

mutual
def size : Tree Nat → Nat
  | .alias _ => 1
  | .scalar _ _ => 1
  | .sequence _ _ items => 2 + sizeItems items
  | .mapping _ _ members => 2 + sizeMembers members

def sizeItems : List (Tree Nat) → Nat
  | [] => 0
  | item :: items => size item + sizeItems items

def sizeMembers : List (Tree Nat × Tree Nat) → Nat
  | [] => 0
  | (key, value) :: members => size key + size value + sizeMembers members
end

end WorkflowGraph.Yaml.Tree
