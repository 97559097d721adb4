import WorkflowGraph.Graph.Run
import Mathlib.Data.List.Basic
set_option autoImplicit false

namespace WorkflowGraph

def Edge.fires (e : Edge) (s : State) : Bool := (Condition.explain e s).fired

namespace Selection

variable {s t : State} {edges : List Edge} {sofar : Selection × List String}

theorem fst_tryEdge (s : State) (sofar : Selection × List String) (e : Edge) :
    (tryEdge s sofar e).1 = if e.fires s then sofar.1.fire e else sofar.1.block e := rfl

theorem foldl_tryEdge (s : State) (edges : List Edge) (sofar : Selection × List String) :
    (edges.foldl (tryEdge s) sofar).1 =
      ⟨sofar.1.next.or ((edges.find? (·.fires s)).map (·.target)),
        sofar.1.fired ++ (edges.filter (·.fires s)).map (·.id),
        sofar.1.blocked ++ (edges.filter (!·.fires s)).map (·.id), sofar.1.explanation⟩ := by
  induction edges generalizing sofar with
  | nil => simp
  | cons e edges ih =>
    rw [List.foldl_cons, ih, fst_tryEdge]
    cases h : e.fires s with
    | true => simp [fire, h]
    | false => simp [block, h]

theorem foldl_tryUnlessTaken_of_isSome (edges : List Edge) (h : sofar.1.next.isSome) :
    edges.foldl (tryUnlessTaken s) sofar =
      (⟨sofar.1.next, sofar.1.fired, sofar.1.blocked ++ edges.map (·.id), sofar.1.explanation⟩,
        sofar.2) := by
  induction edges generalizing sofar with
  | nil => simp
  | cons e edges ih =>
    rw [List.foldl_cons, tryUnlessTaken, if_pos h, @ih (sofar.1.block e, sofar.2) h]
    simp [block]

theorem foldl_tryUnlessTaken_of_eq_none (edges : List Edge) (h : sofar.1.next = none) :
    (edges.foldl (tryUnlessTaken s) sofar).1 =
      ⟨(edges.find? (·.fires s)).map (·.target),
        sofar.1.fired ++ (edges.find? (·.fires s)).toList.map (·.id),
        sofar.1.blocked ++ (edges.eraseP (·.fires s)).map (·.id), sofar.1.explanation⟩ := by
  induction edges generalizing sofar with
  | nil => simp [← h]
  | cons e edges ih =>
    rw [List.foldl_cons, tryUnlessTaken, if_neg (by simp [h])]
    cases hfires : e.fires s with
    | true =>
      rw [foldl_tryUnlessTaken_of_isSome, fst_tryEdge, hfires, if_pos rfl]
      · simp [fire, h, hfires]
      · simp [fst_tryEdge, hfires, fire, h]
    | false =>
      rw [ih, fst_tryEdge, hfires]
      · simp [block, hfires]
      · simp [fst_tryEdge, hfires, block, h]

theorem fst_firstFiring (s : State) (edges : List Edge) :
    (firstFiring s edges).1 =
      ⟨(edges.find? (·.fires s)).map (·.target), (edges.find? (·.fires s)).toList.map (·.id),
        (edges.eraseP (·.fires s)).map (·.id), ""⟩ :=
  foldl_tryUnlessTaken_of_eq_none edges rfl

theorem fst_allTried (s : State) (edges : List Edge) :
    (allTried s edges).1 =
      ⟨(edges.find? (·.fires s)).map (·.target), (edges.filter (·.fires s)).map (·.id),
        (edges.filter (!·.fires s)).map (·.id), ""⟩ :=
  foldl_tryEdge s edges (stop "", [])

theorem exists_explained {tried : Selection × List String} {choice : Selection}
    (h : tried.1 = choice) (closing : String) :
    ∃ explanation, explained tried closing = { choice with explanation } := by
  subst h
  exact ⟨_, rfl⟩

theorem tryEdge_congr (h : ∀ e ∈ edges, Condition.explain e s = Condition.explain e t) :
    ∀ sofar, ∀ e ∈ edges, tryEdge s sofar e = tryEdge t sofar e := by
  intro sofar e he
  rw [tryEdge, tryEdge, h e he]

theorem firstFiring_congr (h : ∀ e ∈ edges, Condition.explain e s = Condition.explain e t) :
    firstFiring s edges = firstFiring t edges := by
  refine List.foldl_ext _ _ _ fun sofar e he => ?_
  rw [tryUnlessTaken, tryUnlessTaken, tryEdge_congr h sofar e he]

theorem allTried_congr (h : ∀ e ∈ edges, Condition.explain e s = Condition.explain e t) :
    allTried s edges = allTried t edges :=
  List.foldl_ext _ _ _ (tryEdge_congr h)

end Selection

namespace NodeType

variable {type : NodeType} {node : Node} {edges : List Edge} {s t : State}

theorem select_loopGuard (node : Node) (edges : List Edge) (s : State) :
    ∃ explanation, select .loopGuard node edges s =
      ⟨(edges.find? (·.fires s)).map (·.target), (edges.filter (·.fires s)).map (·.id),
        (edges.filter (!·.fires s)).map (·.id), explanation⟩ := by
  cases edges with
  | nil => exact ⟨_, rfl⟩
  | cons e edges => exact Selection.exists_explained (Selection.fst_allTried s (e :: edges)) _

theorem select_first (hterminal : type ≠ .terminal) (hguard : type ≠ .loopGuard) (node : Node)
    (edges : List Edge) (s : State) :
    ∃ explanation, type.select node edges s =
      ⟨(edges.find? (·.fires s)).map (·.target), (edges.find? (·.fires s)).toList.map (·.id),
        (edges.eraseP (·.fires s)).map (·.id), explanation⟩ := by
  unfold select
  rw [if_neg hterminal]
  split
  · rename_i hempty
    rw [List.isEmpty_iff.1 hempty]
    exact ⟨_, rfl⟩
  · cases type with
    | terminal => exact absurd rfl hterminal
    | loopGuard => exact absurd rfl hguard
    | start | llm | tool | router | reducer =>
      exact Selection.exists_explained (Selection.fst_firstFiring s edges) _

/-- All nodes but an end node take the first edge that fires, and list it first. -/
theorem next_fired_select (htype : type ≠ .terminal) (node : Node) (edges : List Edge) (s : State) :
    (type.select node edges s).next = (edges.find? (·.fires s)).map (·.target) ∧
      (type.select node edges s).fired.head? = (edges.find? (·.fires s)).map (·.id) := by
  by_cases hguard : type = .loopGuard
  · subst hguard
    obtain ⟨_, hselect⟩ := select_loopGuard node edges s
    rw [hselect, List.head?_map, List.head?_filter]
    exact ⟨rfl, rfl⟩
  · obtain ⟨_, hselect⟩ := select_first htype hguard node edges s
    rw [hselect, List.head?_map, Option.head?_toList]
    exact ⟨rfl, rfl⟩

theorem next_select (type : NodeType) (node : Node) (edges : List Edge) (s : State) :
    (type.select node edges s).next =
      if type = .terminal then none else (edges.find? (·.fires s)).map (·.target) := by
  split
  · subst type
    rfl
  · rename_i htype
    exact (next_fired_select htype node edges s).1

theorem head?_fired_select (type : NodeType) (node : Node) (edges : List Edge) (s : State) :
    (type.select node edges s).fired.head? =
      if type = .terminal then none else (edges.find? (·.fires s)).map (·.id) := by
  split
  · subst type
    rfl
  · rename_i htype
    exact (next_fired_select htype node edges s).2

theorem fired_select_eq_nil_iff :
    (type.select node edges s).fired = [] ↔ (type.select node edges s).next = none := by
  rw [← List.head?_eq_none_iff, head?_fired_select, next_select]
  split
  · simp
  · rw [Option.map_eq_none_iff, Option.map_eq_none_iff]

/-- The edge that is taken is the first that fires, and the first on the list of those that fired.
-/
theorem exists_taken_of_next {next : String} (h : (type.select node edges s).next = some next) :
    ∃ e, edges.find? (·.fires s) = some e ∧ e.target = next ∧
      (type.select node edges s).fired.head? = some e.id := by
  rw [head?_fired_select]
  rw [next_select] at h
  split at h
  · simp at h
  · rename_i htype
    obtain ⟨e, hfind, htarget⟩ := Option.map_eq_some_iff.1 h
    refine ⟨e, hfind, htarget, ?_⟩
    rw [if_neg htype, hfind, Option.map_some]

theorem select_congr (type : NodeType) (node : Node)
    (h : ∀ e ∈ edges, Condition.explain e s = Condition.explain e t) :
    type.select node edges s = type.select node edges t := by
  unfold select
  rw [Selection.firstFiring_congr h, Selection.allTried_congr h]

end NodeType

namespace Graph

variable {g : Graph} {node : Node}

theorem mem_outgoing {id : String} {e : Edge} :
    e ∈ g.outgoing id ↔ e ∈ g.edges ∧ e.source = id := by
  rw [outgoing, (List.mergeSort_perm _ _).mem_iff, List.mem_filter, decide_eq_true_iff]

theorem node?_eq_some {id : String} (h : g.node? id = some node) :
    node ∈ g.nodes ∧ node.id = id := by
  have hmem := List.mem_of_find?_eq_some h
  have hid := List.find?_some h
  exact ⟨List.mem_reverse.1 hmem, by simpa using hid⟩

theorem node?_eq_none_iff {id : String} : g.node? id = none ↔ ∀ n ∈ g.nodes, n.id ≠ id := by
  simp [node?, List.find?_eq_none]

theorem start?_eq_some (h : g.start? = some node) : node ∈ g.nodes := by
  have hmem := List.mem_of_mem_head? h
  exact (List.mem_filter.1 hmem).1

theorem start?_eq_none_iff : g.start? = none ↔ ∀ n ∈ g.nodes, n.type ≠ .start := by
  simp [start?, ofType]

end Graph

namespace Node

variable {node : Node} {g : Graph} {s : State} {next : String}

theorem exists_edge_of_next (h : (node.selection g s).next = some next) :
    ∃ e ∈ g.edges, e.source = node.id ∧ e.target = next ∧
      e.fires (node.type.apply node s) = true := by
  rw [selection, NodeType.next_select] at h
  split at h
  · simp at h
  · obtain ⟨e, hfind, htarget⟩ := Option.map_eq_some_iff.1 h
    obtain ⟨hedge, hsource⟩ := Graph.mem_outgoing.1 (List.mem_of_find?_eq_some hfind)
    have hfires := List.find?_some hfind
    exact ⟨e, hedge, hsource, htarget, hfires⟩

theorem next_eq_none_iff : (node.selection g s).next = none ↔
    node.type = .terminal ∨
      ∀ e ∈ g.outgoing node.id, e.fires (node.type.apply node s) = false := by
  rw [selection, NodeType.next_select]
  split
  · simp [*]
  · rw [Option.map_eq_none_iff, List.find?_eq_none]
    simp [*]

end Node

end WorkflowGraph
