import WorkflowGraph.Graph.Diagnostic
import WorkflowGraph.Condition.Explanation
set_option autoImplicit false

namespace WorkflowGraph

inductive Finding where
  | noStart
  | manyStarts (ids : List String)
  | noEnd
  | unreachable (ids : List String)
  /-- A closed walk, from a node back to it. -/
  | cycle (ids : List String)
  | deadEnds (ids : List String)
  | unlistedInCondition (edge : String) (fields : List String)
  | unlistedTarget (router field : String)
  | unlistedCounter (guard field : String)
  | wrongCounter (guard field : String) (found : FieldType)
deriving DecidableEq, Repr

def Finding.diagnostic : Finding → Diagnostic
  | .noStart => ⟨.noStart, "Graph has no Start node", []⟩
  | .manyStarts ids =>
    ⟨.noStart, "Graph has " ++ toString ids.length ++ " Start nodes; exactly one is expected", ids⟩
  | .noEnd => ⟨.unreachable, "Graph has no End node", []⟩
  | .unreachable ids =>
    ⟨.unreachable, "Nodes not reachable from Start: " ++ ", ".intercalate ids, ids⟩
  | .cycle ids => ⟨.cycle, "Cycle detected: " ++ " -> ".intercalate ids, ids⟩
  | .deadEnds ids =>
    ⟨.unreachable, "Nodes with no outgoing edges: " ++ ", ".intercalate ids, ids⟩
  | .unlistedInCondition edge fields =>
    ⟨.invalidFieldRef, "Edge '" ++ edge ++ "' references fields missing from the state schema: "
      ++ ", ".intercalate fields, [edge]⟩
  | .unlistedTarget router field =>
    ⟨.invalidFieldRef, "Router '" ++ router ++ "' targets field '" ++ field
      ++ "' which is not in the state schema", [router]⟩
  | .unlistedCounter guard field =>
    ⟨.invalidFieldRef, "LoopGuard '" ++ guard ++ "' counter field '" ++ field
      ++ "' is not in the state schema", [guard]⟩
  | .wrongCounter guard field found =>
    ⟨.invalidFieldRef, "LoopGuard '" ++ guard ++ "' counter field '" ++ field
      ++ "' must be a number, found " ++ found.name, [guard]⟩

namespace Graph

def checkStarts (g : Graph) : List Finding :=
  match g.ofType .start with
  | [] => [.noStart]
  | [_] => []
  | starts => [.manyStarts (starts.map (·.id))]

def checkEnds (g : Graph) : List Finding :=
  if (g.ofType .terminal).isEmpty then [.noEnd] else []

/-- Where a search in breadth stands: the ids it has come to, and of these the ones whose edges it
has still to follow, in the order in which it came to them. -/
structure Frontier where
  visited : List String
  queue : List String

def Frontier.first (start : String) : Frontier := ⟨[start], [start]⟩

def Frontier.visit (f : Frontier) (id : String) : Frontier :=
  if id ∈ f.visited then f else ⟨id :: f.visited, f.queue ++ [id]⟩

def round? (g : Graph) (f : Frontier) : Option Frontier :=
  match f.queue with
  | [] => none
  | id :: queue => some ((g.targets id).foldl Frontier.visit ⟨f.visited, queue⟩)

/-- How many rounds there can be: one for each id in the queue, and one for each edge to an id not
yet visited. -/
def pending (g : Graph) (f : Frontier) : Nat :=
  (g.edges.filter (·.target ∉ f.visited)).length + f.queue.length

theorem pending_visit_le {g : Graph} {e : Edge} (he : e ∈ g.edges) (f : Frontier) :
    g.pending (f.visit e.target) ≤ g.pending f := by
  unfold Frontier.visit
  split
  · exact Nat.le_refl _
  · rename_i hnew
    have hsplit : g.edges.filter (·.target ∉ e.target :: f.visited) =
        (g.edges.filter (·.target ∉ f.visited)).filter (·.target ≠ e.target) := by
      simp [List.filter_filter]
    have hfewer : ((g.edges.filter (·.target ∉ f.visited)).filter (·.target ≠ e.target)).length <
        (g.edges.filter (·.target ∉ f.visited)).length :=
      List.length_filter_lt_length_iff_exists.2
        ⟨e, List.mem_filter.2 ⟨he, decide_eq_true hnew⟩, by simp⟩
    rw [pending, pending, hsplit, List.length_append, List.length_singleton]
    omega

theorem pending_foldl_visit_le {g : Graph} {ids : List String}
    (h : ∀ id ∈ ids, ∃ e ∈ g.edges, e.target = id) (f : Frontier) :
    g.pending (ids.foldl Frontier.visit f) ≤ g.pending f := by
  induction ids generalizing f with
  | nil => exact Nat.le_refl _
  | cons id ids ih =>
    obtain ⟨e, he, rfl⟩ := h id List.mem_cons_self
    rw [List.foldl_cons]
    exact Nat.le_trans (ih (fun id hid => h id (List.mem_cons_of_mem _ hid)) _)
      (pending_visit_le he f)

theorem pending_lt_of_round? {g : Graph} {f next : Frontier} (h : g.round? f = some next) :
    g.pending next < g.pending f := by
  unfold round? at h
  split at h
  · simp at h
  · rename_i id queue hqueue
    obtain rfl := Option.some.inj h
    have htargets : ∀ target ∈ g.targets id, ∃ e ∈ g.edges, e.target = target := by
      intro target htarget
      obtain ⟨e, he, rfl⟩ := List.mem_map.1 htarget
      exact ⟨e, (List.mem_filter.1 he).1, rfl⟩
    have hle := pending_foldl_visit_le htargets ⟨f.visited, queue⟩
    have htaken : g.pending f = g.pending ⟨f.visited, queue⟩ + 1 := by
      rw [pending, pending, hqueue, List.length_cons, Nat.add_assoc]
    omega

def searchBreadth (g : Graph) (f : Frontier) : List String :=
  match _h : g.round? f with
  | none => f.visited
  | some next => searchBreadth g next
termination_by g.pending f
decreasing_by exact pending_lt_of_round? _h

def reachable (g : Graph) (start : String) : List String := g.searchBreadth (.first start)

def checkReachability (g : Graph) : List Finding :=
  match g.start? with
  | none => []
  | some start =>
    let reached := g.reachable start.id
    let ids := (g.nodes.map (·.id)).filter (· ∉ reached)
    if ids.isEmpty then [] else [.unreachable ids]

structure CycleSearch where
  visited : List String
  cycle : Option (List String)

/-- Follows the edges from a node in depth. `path` leads to the node, the last id first. -/
def searchCycle (g : Graph) :
    (levels : Nat) → (node : String) → (path visited : List String) → CycleSearch
  -- Each id is followed once, so there are no more levels than targets.
  | 0, _, _, visited => ⟨visited, none⟩
  | levels + 1, node, path, visited =>
    let path := node :: path
    (g.targets node).foldl
      (fun found target =>
        -- The search ends with the first target that lies on the path.
        if found.cycle.isSome then found
        else if target ∈ path then
          let back := path.takeWhile (· ≠ target)
          ⟨found.visited, some (target :: back.reverse ++ [target])⟩
        else if target ∈ found.visited then found
        else searchCycle g levels target path found.visited)
      ⟨node :: visited, none⟩

def cycles (g : Graph) : List (List String) :=
  (g.nodes.foldl
    (fun (visited, found) node =>
      if node.id ∈ visited then (visited, found)
      else
        let search := g.searchCycle (g.edges.length + 1) node.id [] visited
        (search.visited, found ++ search.cycle.toList))
    (([] : List String), ([] : List (List String)))).2

def checkCycles (g : Graph) : List Finding := g.cycles.map .cycle

def checkDeadEnds (g : Graph) : List Finding :=
  let stuck := g.nodes.filter fun n => n.type ≠ .terminal && !g.edges.any (·.source = n.id)
  if stuck.isEmpty then [] else [.deadEnds (stuck.map (·.id))]

def checkCondition (schema : Schema) (edge : Edge) : Option Finding :=
  let fields := (Condition.referencedFields (edge.condition.getD "")).filter
    fun field => !schema.contains field
  if fields.isEmpty then none else some (.unlistedInCondition edge.id fields)

def checkSetting (schema : Schema) (node : Node) : Option Finding :=
  match node.type with
  | .router =>
    (node.setting? "targetField").bind fun field =>
      if schema.contains field then none else some (.unlistedTarget node.id field)
  | .loopGuard =>
    (node.setting? "counterField").bind fun field =>
      match schema.field? field with
      | none => some (.unlistedCounter node.id field)
      | some d => if d.type = .number then none else some (.wrongCounter node.id field d.type)
  | _ => none

def checkFields (g : Graph) (schema : Schema) : List Finding :=
  g.edges.filterMap (checkCondition schema) ++ g.nodes.filterMap (checkSetting schema)

def findings (g : Graph) (schema : Option Schema) : List Finding :=
  g.checkStarts ++ g.checkEnds ++ g.checkReachability ++ g.checkCycles ++ g.checkDeadEnds
    ++ (schema.map g.checkFields).getD []

def validate (g : Graph) (schema : Option Schema) : List Diagnostic :=
  (g.findings schema).map Finding.diagnostic

end Graph

end WorkflowGraph
