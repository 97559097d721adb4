import WorkflowGraph.Proofs.CycleSearch
import WorkflowGraph.Proofs.Selection
import WorkflowGraph.Proofs.Walk
set_option autoImplicit false

namespace WorkflowGraph

def Failure.pending? : Failure → Option String
  | .noStart => none
  | .unknownNode id => some id
  | .revisited id _ => some id
  | .budgetSpent _ id => some id

namespace Graph

def itinerary (outcome : List Step × Option Failure) : List String :=
  outcome.1.map (·.nodeId) ++ (outcome.2.bind Failure.pending?).toList

variable {g : Graph} {budget left number : Nat} {p : Position}

theorem leads_of_next {node : Node} {s : State} {next : String}
    (h : (node.selection g s).next = some next) : g.Leads node.id next := by
  obtain ⟨e, he, hsource, htarget, -⟩ := node.exists_edge_of_next h
  exact leads_iff.2 ⟨e, he, hsource, htarget⟩

theorem walk_itinerary (g : Graph) (budget left number : Nat) (p : Position) :
    ∃ ids, itinerary (g.walk budget left number p) = p.current :: ids ∧
      (p.current :: ids).IsChain g.Leads := by
  induction left, number, p using g.walk_induction budget with
  | spent number p => exact ⟨[], rfl, List.isChain_singleton _⟩
  | revisited left number p _ => exact ⟨[], rfl, List.isChain_singleton _⟩
  | unknown left number p _ _ => exact ⟨[], rfl, List.isChain_singleton _⟩
  | stop left number p node _ hnode _ =>
    refine ⟨[], ?_, List.isChain_singleton _⟩
    simp [itinerary, Node.step, (node?_eq_some hnode).2]
  | advance left number p node next steps failure _ hnode hnext _ ih =>
    obtain ⟨ids, hids, hchain⟩ := ih
    have hid := (node?_eq_some hnode).2
    refine ⟨next :: ids, ?_, List.isChain_cons_cons.2 ⟨hid ▸ leads_of_next hnext, hchain⟩⟩
    rw [Position.advance_current] at hids
    rw [← hids]
    simp [itinerary, Node.step, hid]

theorem length_walk_le (g : Graph) (budget left number : Nat) (p : Position) :
    (g.walk budget left number p).1.length ≤ left := by
  induction left, number, p using g.walk_induction budget with
  | spent number p => exact Nat.le_refl _
  | revisited left number p _ => exact Nat.zero_le _
  | unknown left number p _ _ => exact Nat.zero_le _
  | stop left number p node _ _ _ => exact Nat.succ_le_succ (Nat.zero_le _)
  | advance left number p node next steps failure _ _ _ _ ih => exact Nat.succ_le_succ ih

theorem walk_steps (g : Graph) (budget left number : Nat) (p : Position) :
    ∀ step ∈ (g.walk budget left number p).1, ∃ node n s,
      g.node? node.id = some node ∧ step = node.step g n s := by
  induction left, number, p using g.walk_induction budget with
  | spent number p => simp
  | revisited left number p _ => simp
  | unknown left number p _ _ => simp
  | stop left number p node _ hnode _ =>
    intro step hstep
    have hid := (node?_eq_some hnode).2
    exact ⟨node, number, p.state, by rw [hid, hnode], List.mem_singleton.1 hstep⟩
  | advance left number p node next steps failure _ hnode _ _ ih =>
    intro step hstep
    have hid := (node?_eq_some hnode).2
    rcases List.mem_cons.1 hstep with rfl | hstep
    · exact ⟨node, number, p.state, by rw [hid, hnode], rfl⟩
    · exact ih step hstep

theorem walk_ended (g : Graph) (budget left number : Nat) (p : Position)
    (h : (g.walk budget left number p).2 = none) :
    ∃ node n s, (g.walk budget left number p).1.getLast? = some (node.step g n s) ∧
      g.node? node.id = some node ∧ (node.selection g s).next = none := by
  induction left, number, p using g.walk_induction budget with
  | spent number p => simp at h
  | revisited left number p _ => simp at h
  | unknown left number p _ _ => simp at h
  | stop left number p node _ hnode hstop =>
    have hid := (node?_eq_some hnode).2
    exact ⟨node, number, p.state, rfl, by rw [hid, hnode], hstop⟩
  | advance left number p node next steps failure _ _ _ _ ih =>
    obtain ⟨last, n, s, hlast, hnode, hstop⟩ := ih h
    refine ⟨last, n, s, ?_, hnode, hstop⟩
    cases steps with
    | nil => simp at hlast
    | cons step steps => rwa [List.getLast?_cons_cons]

/-- An id of no node is where the walk began or where an edge leads. -/
theorem walk_unknownNode {id : String}
    (h : (g.walk budget left number p).2 = some (.unknownNode id)) :
    g.node? id = none ∧ (id = p.current ∨ ∃ e ∈ g.edges, e.target = id) := by
  induction left, number, p using g.walk_induction budget with
  | spent number p => simp at h
  | revisited left number p _ => simp at h
  | unknown left number p _ hnode =>
    obtain rfl : p.current = id := by simpa using h
    exact ⟨hnode, .inl rfl⟩
  | stop left number p node _ _ _ => simp at h
  | advance left number p node next steps failure _ _ hnext _ ih =>
    obtain ⟨hnone, rfl | htarget⟩ := ih h
    · obtain ⟨e, he, -, htarget, -⟩ := node.exists_edge_of_next hnext
      exact ⟨hnone, .inr ⟨e, he, htarget⟩⟩
    · exact ⟨hnone, .inr htarget⟩

theorem walk_ne_noStart (g : Graph) (budget left number : Nat) (p : Position) :
    (g.walk budget left number p).2 ≠ some .noStart := by
  induction left, number, p using g.walk_induction budget with
  | spent number p => simp
  | revisited left number p _ => simp
  | unknown left number p _ _ => simp
  | stop left number p node _ _ _ => simp
  | advance left number p node next steps failure _ _ _ _ ih => exact ih

theorem length_of_walk_budgetSpent {b : Nat} {id : String}
    (h : (g.walk budget left number p).2 = some (.budgetSpent b id)) :
    (g.walk budget left number p).1.length = left := by
  induction left, number, p using g.walk_induction budget with
  | spent number p => rfl
  | revisited left number p _ => simp at h
  | unknown left number p _ _ => simp at h
  | stop left number p node _ _ _ => simp at h
  | advance left number p node next steps failure _ _ _ _ ih =>
    exact congrArg (· + 1) (ih h)

/-- The passed ids that a walk stops at are among those it came to or started with. -/
theorem mem_of_walk_revisited {id : String} {passed : List String}
    (h : (g.walk budget left number p).2 = some (.revisited id passed)) :
    id ∈ p.passed ++ (g.walk budget left number p).1.map (·.nodeId) := by
  induction left, number, p using g.walk_induction budget with
  | spent number p => simp at h
  | revisited left number p hseen =>
    obtain ⟨rfl, -⟩ : p.current = id ∧ p.passed = passed := by simpa using h
    exact List.mem_append_left _ hseen
  | unknown left number p _ _ => simp at h
  | stop left number p node _ _ _ => simp at h
  | advance left number p node next steps failure _ hnode _ _ ih =>
    have hid := (node?_eq_some hnode).2
    have hmem := ih h
    simp only [List.mem_append, List.map_cons, List.mem_cons, Position.advance] at hmem ⊢
    rcases hmem with hmem | hmem
    · split at hmem
      · rcases List.mem_append.1 hmem with hmem | hmem
        · exact .inl hmem
        · exact .inr (.inl ((List.mem_singleton.1 hmem).trans hid.symm))
      · simp at hmem
    · exact .inr (.inr hmem)

end Graph

end WorkflowGraph
