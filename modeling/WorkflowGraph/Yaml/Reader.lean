import WorkflowGraph.Source.Basic
import WorkflowGraph.Yaml.Anchor
import WorkflowGraph.Yaml.Lexer
set_option autoImplicit false

namespace WorkflowGraph.Yaml

def maxDepth : Nat := 128

def beyondDepth : Source := .skippable (.atom .null)

def withTag (tag : Option Tag) (s : Source) : Source :=
  if (tag.bind Tag.name?).isSome then .tagged s else s

/-- The source of a node, given those of the nodes that are no aliases. Of the anchored nodes with
one number the first in the list counts. -/
def resolve (anchored : List (Nat × Tree Nat)) (node : Tree Nat → Source) : Tree Nat → Source
  | .alias n =>
    match anchored.find? (·.1 = n) with
    | some (_, target) => .alias fun _ => node target
    | none => beyondDepth
  | tree => node tree

def expand (anchored : List (Nat × Tree Nat)) : (depth : Nat) → Tree Nat → Source
  | 0, tree => resolve anchored (fun
    | .scalar _ s => .scalar s
    | _ => beyondDepth) tree
  | depth + 1, tree => resolve anchored (fun
    | .scalar _ s => .scalar s
    | .sequence _ tag items => withTag tag (.sequence (items.map (expand anchored depth)) .closed)
    | .mapping _ tag members =>
      let members := members.map fun (key, value) =>
        (expand anchored depth key, expand anchored depth value)
      withTag tag (.mapping members .closed)
    | .alias _ => beyondDepth) tree

/-- The source that a text spells, and how many aliases may be followed in it: a hundred for each
part. -/
def source? (text : String) : Option (Source × Nat) := do
  let tree ← Tree.ofTokens? (← tokenize? text)
  let (tree, _) ← tree.number? []
  return (expand tree.anchored.reverse maxDepth tree, 100 * tree.size)

def decode {α : Type} (read : Source → Decoding α) (text : String) : Except Fault α :=
  match source? text with
  | some (source, aliases) => (read source).run' aliases
  | none => .error .malformed

end WorkflowGraph.Yaml
