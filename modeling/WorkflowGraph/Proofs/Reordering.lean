import WorkflowGraph.Proofs.ByteOrder
import WorkflowGraph.Proofs.Declarations
import WorkflowGraph.Proofs.Simulation
set_option autoImplicit false

namespace WorkflowGraph.Graph

/-- The same nodes with the same first start node, and the same edges, those with the same source
and the same id in the same order. -/
structure Reordered (g h : Graph) : Prop where
  nodes : g.nodes.Perm h.nodes
  start : g.start? = h.start?
  edges : g.edges.Perm h.edges
  ties : ∀ source id, g.edges.filter (fun e => e.source = source ∧ e.id = id) =
    h.edges.filter (fun e => e.source = source ∧ e.id = id)

structure InEvaluationOrder (g : Graph) (id : String) (edges : List Edge) : Prop where
  leaving : edges.Perm (g.edges.filter (·.source = id))
  ascending : edges.Pairwise fun a b => Text.bytes a.id ≤ Text.bytes b.id
  ties : ∀ k, edges.filter (·.id = k) = g.edges.filter fun e => e.source = id ∧ e.id = k

variable {g h : Graph} {id : String} {node : Node} {edges : List Edge}

theorem filter_leaving (g : Graph) (id k : String) :
    (g.edges.filter (·.source = id)).filter (·.id = k) =
      g.edges.filter fun e => e.source = id ∧ e.id = k := by
  rw [List.filter_filter]
  refine List.filter_congr fun e _ => ?_
  rw [Bool.decide_and, Bool.and_comm]

theorem inEvaluationOrder_outgoing (g : Graph) (id : String) :
    g.InEvaluationOrder id (g.outgoing id) := by
  have hsorted : g.AreOutgoing id (g.outgoing id) := areOutgoing_iff.2 rfl
  refine ⟨List.mergeSort_perm _ _, hsorted.ascending.imp Text.bytes_le_iff.2, fun k => ?_⟩
  rw [hsorted.stable, filter_leaving]

theorem InEvaluationOrder.eq_outgoing (horder : g.InEvaluationOrder id edges) :
    edges = g.outgoing id := by
  refine areOutgoing_iff.1 ⟨horder.ascending.imp Text.bytes_le_iff.1, fun k => ?_⟩
  rw [horder.ties, filter_leaving]

theorem Reordered.inEvaluationOrder (hre : g.Reordered h) (horder : g.InEvaluationOrder id edges) :
    h.InEvaluationOrder id edges where
  leaving := horder.leaving.trans (hre.edges.filter _)
  ascending := horder.ascending
  ties k := (horder.ties k).trans (hre.ties id k)

theorem Reordered.outgoing_eq (hre : g.Reordered h) (id : String) : g.outgoing id = h.outgoing id :=
  (hre.inEvaluationOrder (g.inEvaluationOrder_outgoing id)).eq_outgoing

theorem node?_eq_some_iff_of_nodup (hids : (g.nodes.map (·.id)).Nodup) :
    g.node? id = some node ↔ node ∈ g.nodes ∧ node.id = id := by
  refine ⟨node?_eq_some, fun ⟨hnode, hid⟩ => ?_⟩
  cases hfound : g.node? id with
  | none => exact absurd hid (node?_eq_none_iff.1 hfound node hnode)
  | some m =>
    obtain ⟨hm, hmid⟩ := node?_eq_some hfound
    rw [List.inj_on_of_nodup_map hids hm hnode (hmid.trans hid.symm)]

theorem Reordered.node?_eq (hre : g.Reordered h) (hids : (g.nodes.map (·.id)).Nodup) (id : String) :
    g.node? id = h.node? id := by
  have hids' : (h.nodes.map (·.id)).Nodup := (hre.nodes.map _).nodup_iff.1 hids
  refine Option.ext fun n => ?_
  rw [node?_eq_some_iff_of_nodup hids, node?_eq_some_iff_of_nodup hids', hre.nodes.mem_iff]

/-- If no two nodes share an id, no run depends on the order of the declarations. The edges that
leave an id are tried in ascending order of their ids, those with the same id as they are declared.
-/
theorem run_reordered (hids : (g.nodes.map (·.id)).Nodup) (hre : g.Reordered h) (budget : Nat)
    (initial : State) :
    g.run budget initial = h.run budget initial ∧
      ∀ id, g.outgoing id = h.outgoing id ∧ g.InEvaluationOrder id (g.outgoing id) := by
  refine ⟨?_, fun id => ⟨hre.outgoing_eq id, g.inEvaluationOrder_outgoing id⟩⟩
  apply run_congr (P := fun _ => True) hre.start
  · exact fun _ _ => trivial
  · exact fun id _ => hre.node?_eq hids id
  · exact fun id _ => hre.outgoing_eq id
  · exact fun _ _ _ _ => trivial

def rivals : Graph :=
  ⟨[⟨"s", .start, {}⟩, ⟨"t", .start, {}⟩, ⟨"e", .terminal, {}⟩],
    [⟨"～", "s", "t", some "state.n > 0", none⟩, ⟨"～", "s", "e", none, none⟩,
      ⟨"😀", "s", "s", none, none⟩]⟩

def rivalsTurned : Graph :=
  ⟨[⟨"e", .terminal, {}⟩, ⟨"s", .start, {}⟩, ⟨"t", .start, {}⟩],
    [⟨"😀", "s", "s", none, none⟩, ⟨"～", "s", "t", some "state.n > 0", none⟩,
      ⟨"～", "s", "e", none, none⟩]⟩

theorem rivals_reordered :
    (rivals.nodes.map (·.id)).Nodup ∧ rivals.Reordered rivalsTurned ∧
      rivals.run 9 Fields.empty = rivalsTurned.run 9 Fields.empty := by
  have hids : (rivals.nodes.map (·.id)).Nodup := by decide +kernel
  have hre : rivals.Reordered rivalsTurned := by
    refine ⟨List.perm_append_singleton _ [_, _], rfl, List.perm_append_singleton _ [_, _],
      fun source id => ?_⟩
    by_cases hid : id = "～"
    · subst hid
      simp [rivals, rivalsTurned, List.filter_cons]
    · simp [rivals, rivalsTurned, List.filter_cons, Ne.symm hid]
  exact ⟨hids, hre, (run_reordered hids hre 9 Fields.empty).1⟩

end WorkflowGraph.Graph
