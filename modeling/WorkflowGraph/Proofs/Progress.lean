import WorkflowGraph.Proofs.Walk
set_option autoImplicit false

/-!
# The progress of a walk

The positions that a walk comes to, each with the steps recorded on the way there, and the four ways
in which it ends at the last of them (`ends_walk`). What holds of the steps of every run is proved
by induction over `Reaches`, whose one rule is a node that takes an edge; what holds of the way it
ends is then read off the position that it ends at.
-/
namespace WorkflowGraph.Graph

/-- A walk from `first` comes to a position and has recorded these steps on its way. -/
inductive Reaches (g : Graph) (first : Position) : List Step → Position → Prop
  | start : Reaches g first [] first
  | move {steps : List Step} {p : Position} {node : Node} {next : String} :
    Reaches g first steps p → p.current ∉ p.passed → g.node? p.current = some node →
      (node.selection g p.state).next = some next →
      Reaches g first (steps ++ [node.step g steps.length p.state]) (p.advance node next)

inductive Ends (g : Graph) (first : Position) (budget : Nat) : List Step × Option Failure → Prop
  | spent {steps : List Step} {p : Position} :
    g.Reaches first steps p → steps.length = budget →
      Ends g first budget (steps, some (.budgetSpent budget p.current))
  | revisited {steps : List Step} {p : Position} :
    g.Reaches first steps p → steps.length < budget → p.current ∈ p.passed →
      Ends g first budget (steps, some (.revisited p.current p.passed))
  | unknown {steps : List Step} {p : Position} :
    g.Reaches first steps p → steps.length < budget → g.node? p.current = none →
      Ends g first budget (steps, some (.unknownNode p.current))
  | stop {steps : List Step} {p : Position} {node : Node} :
    g.Reaches first steps p → steps.length < budget → g.node? p.current = some node →
      (node.selection g p.state).next = none →
      Ends g first budget (steps ++ [node.step g steps.length p.state], none)

variable {g : Graph} {first p : Position} {steps : List Step} {budget left : Nat}

theorem Reaches.ends (h : g.Reaches first steps p) (hbudget : steps.length + left = budget) :
    g.Ends first budget (steps ++ (g.walk budget left steps.length p).1,
      (g.walk budget left steps.length p).2) := by
  generalize hnumber : steps.length = number
  induction left, number, p using g.walk_induction budget generalizing steps with
  | spent number p =>
    rw [List.append_nil]
    exact .spent h hbudget
  | revisited left number p hseen =>
    rw [List.append_nil]
    exact .revisited h (by omega) hseen
  | unknown left number p _ hnode =>
    rw [List.append_nil]
    exact .unknown h (by omega) hnode
  | stop left number p node _ hnode hstop =>
    subst hnumber
    exact .stop h (by omega) hnode hstop
  | advance left number p node next rest failure hnew hnode hnext _ ih =>
    subst hnumber
    have hmove := ih (.move h hnew hnode hnext) (by simp; omega) (by simp)
    rwa [List.append_assoc, List.singleton_append] at hmove

theorem ends_walk (g : Graph) (first : Position) (budget : Nat) :
    g.Ends first budget (g.walk budget budget 0 first) :=
  Reaches.start.ends (Nat.zero_add budget)

theorem Reaches.finalState_ofWalk {id : String} {initial : State} {passed : List String}
    (h : g.Reaches ⟨id, initial, passed⟩ steps p) (failure : Option Failure) :
    (Trace.ofWalk initial (steps, failure)).finalState = p.state := by
  cases h with
  | start => rfl
  | move =>
    unfold Trace.ofWalk
    dsimp only
    rw [List.getLast?_concat]
    rfl

/-- What holds of no steps and the initial state and is kept by every node holds of the steps and
the final state of every run. -/
theorem run_induction {initial : State} {motive : List Step → State → Prop}
    (start : motive [] initial)
    (step : ∀ steps s node, g.node? node.id = some node → motive steps s →
      motive (steps ++ [node.step g steps.length s]) (node.type.apply node s)) (budget : Nat) :
    motive (g.run budget initial).steps (g.run budget initial).finalState := by
  have hstep : ∀ steps s node id, g.node? id = some node → motive steps s →
      motive (steps ++ [node.step g steps.length s]) (node.type.apply node s) := by
    intro steps s node id hnode
    have hid : node.id = id := by simpa using List.find?_some hnode
    exact step steps s node (hid ▸ hnode)
  cases hstart : g.start? with
  | none =>
    rw [run_of_no_start hstart]
    exact start
  | some n =>
    have hreach : ∀ steps p, g.Reaches ⟨n.id, initial, []⟩ steps p → motive steps p.state := by
      intro steps p h
      induction h with
      | start => exact start
      | move _ _ hnode _ ih => exact hstep _ _ _ _ hnode ih
    rw [run_of_start hstart]
    generalize houtcome : g.walk budget budget 0 ⟨n.id, initial, []⟩ = outcome
    have hends := houtcome ▸ g.ends_walk ⟨n.id, initial, []⟩ budget
    cases hends with
    | spent h | revisited h | unknown h =>
      rw [h.finalState_ofWalk]
      exact hreach _ _ h
    | stop h _ hnode =>
      have hstop := hstep _ _ _ _ hnode (hreach _ _ h)
      unfold Trace.ofWalk
      dsimp only
      rwa [List.getLast?_concat]

end WorkflowGraph.Graph
