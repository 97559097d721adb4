import WorkflowGraph.Proofs.Declarations
import WorkflowGraph.Proofs.Reachability
import WorkflowGraph.Proofs.Simulation
set_option autoImplicit false

namespace WorkflowGraph.Graph

def without (g : Graph) (ids : List String) : Graph :=
  ⟨g.nodes.filter (·.id ∉ ids), g.edges.filter (·.source ∉ ids)⟩

variable {g : Graph} {ids : List String} {id : String} {start : Node} {schema : Option Schema}

theorem without_nil (g : Graph) : g.without [] = g := by
  simp [without]

theorem node?_without (h : id ∉ ids) : (g.without ids).node? id = g.node? id := by
  rw [node?, node?, without, ← List.filter_reverse, List.find?_filter]
  congr 1
  funext n
  by_cases hn : n.id = id
  · simp [hn, h]
  · simp [hn]

theorem outgoing_without (h : id ∉ ids) : (g.without ids).outgoing id = g.outgoing id := by
  have hedges : (g.without ids).edges.filter (·.source = id) = g.edges.filter (·.source = id) := by
    rw [without, List.filter_filter]
    refine List.filter_congr fun e _ => ?_
    by_cases he : e.source = id
    · simp [he, h]
    · simp [he]
  rw [outgoing, outgoing, hedges]

theorem IsFirstStart.without (h : g.IsFirstStart start) (hid : start.id ∉ ids) :
    (g.without ids).IsFirstStart start := by
  obtain ⟨htype, before, after, hnodes, hbefore⟩ := h
  refine ⟨htype, before.filter (·.id ∉ ids), after.filter (·.id ∉ ids), ?_, fun m hm => ?_⟩
  · rw [Graph.without, hnodes, List.filter_append, List.filter_cons_of_pos (by simpa using hid)]
  · exact hbefore m (List.mem_filter.1 hm).1

theorem exists_node_of_mem_steps (g : Graph) (budget : Nat) (initial : State) :
    ∀ step ∈ (g.run budget initial).steps, ∃ n ∈ g.nodes, n.id = step.nodeId := by
  intro step hstep
  cases hstart : g.start? with
  | none =>
    rw [run_of_no_start hstart] at hstep
    exact absurd hstep List.not_mem_nil
  | some start =>
    rw [run_of_start hstart] at hstep
    obtain ⟨n, number, s, hnode, rfl⟩ := g.walk_steps _ _ _ _ step hstep
    exact ⟨n, (node?_eq_some hnode).1, rfl⟩

/-- Ids to which no way leads from the start can be taken out. -/
theorem run_without (hstart : g.start? = some start)
    (hids : ∀ id, Relation.ReflTransGen g.Leads start.id id → id ∉ ids) (budget : Nat)
    (initial : State) : (g.without ids).run budget initial = g.run budget initial := by
  have hfirst : (g.without ids).start? = some start :=
    start?_eq_some_iff.2 ((start?_eq_some_iff.1 hstart).without (hids start.id .refl))
  symm
  apply run_congr (P := fun id => Relation.ReflTransGen g.Leads start.id id)
  · rw [hstart, hfirst]
  · intro n hn
    obtain rfl : start = n := Option.some.inj (hstart.symm.trans hn)
    exact .refl
  · intro id hway
    exact (node?_without (hids id hway)).symm
  · intro id hway
    exact (outgoing_without (hids id hway)).symm
  · intro a b hway hlead
    exact hway.tail hlead

/-- Without the nodes that are reported as not reachable and the edges that leave them, a run is the
same; and it executes none of these nodes. -/
theorem run_without_unreached (g : Graph) (schema : Option Schema) (budget : Nat)
    (initial : State) :
    (g.without (g.unreached schema)).run budget initial = g.run budget initial ∧
      ∀ step ∈ (g.run budget initial).steps, step.nodeId ∉ g.unreached schema := by
  have hrun : (g.without (g.unreached schema)).run budget initial = g.run budget initial := by
    cases hstart : g.start? with
    | none => rw [unreached_of_no_start hstart, without_nil]
    | some start =>
      refine run_without hstart (fun id hway hid => ?_) budget initial
      rw [unreached_of_start hstart] at hid
      exact of_decide_eq_true (List.mem_filter.1 hid).2 (mem_reachable_iff.2 hway)
  refine ⟨hrun, fun step hstep => ?_⟩
  rw [← hrun] at hstep
  obtain ⟨n, hn, hid⟩ := exists_node_of_mem_steps _ budget initial step hstep
  exact hid ▸ of_decide_eq_true (List.mem_filter.1 hn).2

/-- The id `x` is declared twice and leads to the start, but nothing leads to `x`. -/
def backwater : Graph :=
  ⟨[⟨"x", .tool, {}⟩, ⟨"s", .start, {}⟩, ⟨"x", .start, {}⟩],
    [⟨"1", "x", "s", none, none⟩, ⟨"2", "s", "gone", none, none⟩, ⟨"3", "gone", "s", none, none⟩]⟩

example : backwater.unreached none = ["x", "x"] ∧
    ((backwater.without ["x", "x"]).edges.map (·.id)) = ["2", "3"] := by
  decide +kernel

end WorkflowGraph.Graph
