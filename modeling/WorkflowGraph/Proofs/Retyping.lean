import WorkflowGraph.Proofs.Guard
import WorkflowGraph.Proofs.Simulation
import Mathlib.Data.List.Forall2
set_option autoImplicit false

namespace WorkflowGraph

inductive Node.Retyped : Node → Node → Prop
  | same (n : Node) : Retyped n n
  | toLoopGuard (n : Node) : n.type = .router → Retyped n { n with type := .loopGuard }
  | toRouter (n : Node) : n.type = .loopGuard → Retyped n { n with type := .router }

/-- Any of the routers and loop guards among the nodes have changed places. -/
structure Graph.Retyped (g h : Graph) : Prop where
  nodes : List.Forall₂ Node.Retyped g.nodes h.nodes
  edges : g.edges = h.edges

structure Passage where
  number : Nat
  nodeId : String
  before : State
  after : State
  /-- The first edge that fired. -/
  taken : Option String

def Step.passage (step : Step) : Passage :=
  ⟨step.number, step.nodeId, step.before, step.after, step.fired.head?⟩

variable {n m : Node} {g h : Graph}

theorem Node.Retyped.id_eq (hnode : n.Retyped m) : n.id = m.id := by
  cases hnode <;> rfl

theorem Node.Retyped.type_eq_start_iff (hnode : n.Retyped m) :
    n.type = .start ↔ m.type = .start := by
  cases hnode with
  | same => exact Iff.rfl
  | toLoopGuard htype | toRouter htype => simp [htype]

/-- A node that has been retyped is still a decision node. -/
theorem Node.Retyped.eq_or_isDecision (hnode : n.Retyped m) :
    n = m ∨ n.type.isDecision = true ∧ m.type.isDecision = true := by
  cases hnode with
  | same => exact .inl rfl
  | toLoopGuard htype | toRouter htype => exact .inr ⟨by rw [htype]; rfl, rfl⟩

theorem NodeType.ne_terminal_of_isDecision {type : NodeType} (h : type.isDecision = true) :
    type ≠ .terminal := by
  rintro rfl
  simp [isDecision] at h

theorem Node.matches_of_isDecision (hn : n.type.isDecision = true) (hm : m.type.isDecision = true)
    (hid : n.id = m.id) (hout : g.outgoing n.id = h.outgoing m.id) :
    n.Matches Step.passage g h m := by
  have hstate : ∀ s, n.type.apply n s = m.type.apply m s := by
    intro s
    rw [NodeType.apply_of_isDecision hn, NodeType.apply_of_isDecision hm]
  refine ⟨fun number s => ?_, fun s => ?_, hstate, hn.trans hm.symm⟩
  · have htaken : (n.selection g s).fired.head? = (m.selection h s).fired.head? := by
      rw [selection, selection, NodeType.head?_fired_select, NodeType.head?_fired_select, hout,
        hstate, if_neg (NodeType.ne_terminal_of_isDecision hn),
        if_neg (NodeType.ne_terminal_of_isDecision hm)]
    change Passage.mk number n.id s (n.type.apply n s) (n.selection g s).fired.head? =
      Passage.mk number m.id s (m.type.apply m s) (m.selection h s).fired.head?
    rw [hid, hstate, htaken]
  · rw [selection, selection, NodeType.next_select, NodeType.next_select, hout, hstate,
      if_neg (NodeType.ne_terminal_of_isDecision hn),
      if_neg (NodeType.ne_terminal_of_isDecision hm)]

theorem rel_find? {α : Type} {R : α → α → Prop} {p : α → Bool} {xs ys : List α}
    (hxs : List.Forall₂ R xs ys) (hp : ∀ a b, R a b → p a = p b) :
    Option.Rel R (xs.find? p) (ys.find? p) := by
  induction hxs with
  | nil => exact .none
  | @cons a b xs ys hab _ ih =>
    rw [List.find?_cons, List.find?_cons, hp a b hab]
    cases p b with
    | false => exact ih
    | true => exact .some hab

namespace Graph

theorem Retyped.outgoing_eq (hre : g.Retyped h) (id : String) : g.outgoing id = h.outgoing id := by
  rw [outgoing, outgoing, hre.edges]

theorem Retyped.simulates (hre : g.Retyped h) :
    Simulates Step.passage (fun _ => True) g h := by
  refine ⟨fun id _ => ?_, fun _ _ _ _ => trivial⟩
  have hfind : Option.Rel Node.Retyped (g.node? id) (h.node? id) := by
    refine rel_find? (List.rel_reverse hre.nodes) fun n m hnode => ?_
    rw [hnode.id_eq]
  generalize g.node? id = a, h.node? id = b at hfind ⊢
  cases hfind with
  | none => exact .none
  | @some n m hnode =>
    refine .some ?_
    rcases hnode.eq_or_isDecision with rfl | ⟨hn, hm⟩
    · exact Node.matches_of_outgoing_eq _ (hre.outgoing_eq _)
    · exact Node.matches_of_isDecision hn hm hnode.id_eq (hnode.id_eq ▸ hre.outgoing_eq _)

theorem Retyped.start?_eq (hre : g.Retyped h) :
    g.start?.map (·.id) = h.start?.map (·.id) := by
  have hfind : Option.Rel Node.Retyped g.start? h.start? := by
    rw [start?, start?, ofType, ofType, List.head?_filter, List.head?_filter]
    refine rel_find? hre.nodes fun n m hnode => ?_
    exact decide_eq_decide.2 hnode.type_eq_start_iff
  generalize g.start? = a, h.start? = b at hfind ⊢
  cases hfind with
  | none => rfl
  | some hnode => exact congrArg some hnode.id_eq

/-- Whether routers or loop guards choose the way, a run takes the same way and ends alike. -/
theorem run_retyped (hre : g.Retyped h) (budget : Nat) (initial : State) :
    (g.run budget initial).steps.map Step.passage = (h.run budget initial).steps.map Step.passage ∧
      (g.run budget initial).finalState = (h.run budget initial).finalState ∧
      (g.run budget initial).terminated = (h.run budget initial).terminated ∧
      (g.run budget initial).error = (h.run budget initial).error := by
  obtain ⟨hsteps, hterminated, herror⟩ :=
    hre.simulates.run_eq hre.start?_eq (fun _ _ => trivial) budget initial
  have hafter := congrArg (List.map Passage.after) hsteps
  rw [List.map_map, List.map_map] at hafter
  refine ⟨hsteps, ?_, hterminated, herror⟩
  rw [finalState_run, finalState_run]
  exact congrArg (List.getLastD · initial) hafter

def turning (first second : NodeType) : Graph :=
  ⟨[⟨"s", .start, {}⟩, ⟨"a", first, {}⟩, ⟨"b", second, {}⟩, ⟨"e", .terminal, {}⟩],
    [⟨"1", "s", "a", none, none⟩, ⟨"2", "a", "b", none, none⟩, ⟨"3", "a", "e", none, none⟩,
      ⟨"4", "b", "a", some "state.n > 0", none⟩, ⟨"5", "b", "e", none, none⟩]⟩

theorem turning_retyped :
    (turning .router .loopGuard).Retyped (turning .loopGuard .router) ∧
      ((turning .router .loopGuard).run 9 Fields.empty).steps.map Step.passage =
        ((turning .loopGuard .router).run 9 Fields.empty).steps.map Step.passage ∧
      ((turning .router .loopGuard).run 9 Fields.empty).error =
        ((turning .loopGuard .router).run 9 Fields.empty).error := by
  have hre : (turning .router .loopGuard).Retyped (turning .loopGuard .router) :=
    ⟨.cons (.same _) (.cons (.toLoopGuard _ rfl) (.cons (.toRouter _ rfl)
      (.cons (.same _) .nil))), rfl⟩
  obtain ⟨hsteps, -, -, herror⟩ := run_retyped hre 9 Fields.empty
  exact ⟨hre, hsteps, herror⟩

end Graph

end WorkflowGraph
