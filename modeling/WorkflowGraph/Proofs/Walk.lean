import WorkflowGraph.Graph.Run
import Mathlib.Data.List.Chain
import Mathlib.Logic.Relation
set_option autoImplicit false

namespace WorkflowGraph

def Position.advance (p : Position) (node : Node) (next : String) : Position :=
  ⟨next, node.type.apply node p.state,
    if node.type.isDecision then p.passed ++ [p.current] else []⟩

@[simp] theorem Position.advance_current (p : Position) (node : Node) (next : String) :
    (p.advance node next).current = next := rfl

@[simp] theorem Position.advance_state (p : Position) (node : Node) (next : String) :
    (p.advance node next).state = node.type.apply node p.state := rfl

theorem Failure.kind_eq_cycle_iff (f : Failure) :
    f.diagnostic.kind = .cycle ↔ ∃ id passed, f = .revisited id passed := by
  cases f <;> simp [diagnostic]

theorem Failure.kind_eq_maxSteps_iff (f : Failure) :
    f.diagnostic.kind = .maxSteps ↔ ∃ budget id, f = .budgetSpent budget id := by
  cases f <;> simp [diagnostic]

namespace Trace

def ofWalk (initial : State) (outcome : List Step × Option Failure) : Trace :=
  { steps := outcome.1
    finalState := (outcome.1.getLast?.map (·.after)).getD initial
    terminated := outcome.2.isNone
    error := outcome.2.map Failure.diagnostic }

theorem finalState_ofWalk_cons (initial : State) (step : Step) (steps : List Step)
    (failure : Option Failure) :
    (ofWalk initial (step :: steps, failure)).finalState =
      (ofWalk step.after (steps, failure)).finalState := by
  unfold ofWalk
  dsimp only
  rw [List.getLast?_cons]
  cases steps.getLast? <;> rfl

def errorKind (t : Trace) : Option DiagnosticKind := t.error.map (·.kind)

theorem errorKind_ofWalk_eq_cycle_iff (initial : State) (outcome : List Step × Option Failure) :
    (ofWalk initial outcome).errorKind = some .cycle ↔
      ∃ id passed, outcome.2 = some (.revisited id passed) := by
  cases h : outcome.2 with
  | none => simp [errorKind, ofWalk, h]
  | some f => simp [errorKind, ofWalk, h, Failure.kind_eq_cycle_iff]

theorem errorKind_ofWalk_eq_maxSteps_iff (initial : State)
    (outcome : List Step × Option Failure) :
    (ofWalk initial outcome).errorKind = some .maxSteps ↔
      ∃ budget id, outcome.2 = some (.budgetSpent budget id) := by
  cases h : outcome.2 with
  | none => simp [errorKind, ofWalk, h]
  | some f => simp [errorKind, ofWalk, h, Failure.kind_eq_maxSteps_iff]

end Trace

namespace Graph

variable {g : Graph} {budget left number : Nat} {p : Position} {node : Node} {next : String}

theorem run_of_no_start (h : g.start? = none) (budget : Nat) (initial : State) :
    g.run budget initial = ⟨[], initial, false, some Failure.noStart.diagnostic⟩ := by
  rw [run, h]

theorem errorKind_run_of_no_start (h : g.start? = none) (budget : Nat) (initial : State) :
    (g.run budget initial).errorKind = some .noStart := by
  rw [run_of_no_start h]
  rfl

theorem run_of_start {start : Node} (h : g.start? = some start) (budget : Nat) (initial : State) :
    g.run budget initial = .ofWalk initial (g.walk budget budget 0 ⟨start.id, initial, []⟩) := by
  rw [run, h]
  rfl

theorem walk_zero :
    g.walk budget 0 number p = ([], some (.budgetSpent budget p.current)) := rfl

theorem walk_revisited (h : p.current ∈ p.passed) :
    g.walk budget (left + 1) number p = ([], some (.revisited p.current p.passed)) := by
  rw [walk, if_pos h]

theorem walk_unknown (hnew : p.current ∉ p.passed) (hnode : g.node? p.current = none) :
    g.walk budget (left + 1) number p = ([], some (.unknownNode p.current)) := by
  rw [walk, if_neg hnew, hnode]

theorem walk_stop (hnew : p.current ∉ p.passed) (hnode : g.node? p.current = some node)
    (hstop : (node.selection g p.state).next = none) :
    g.walk budget (left + 1) number p = ([node.step g number p.state], none) := by
  rw [walk, if_neg hnew, hnode]
  simp only [hstop]

theorem walk_next (hnew : p.current ∉ p.passed) (hnode : g.node? p.current = some node)
    (hnext : (node.selection g p.state).next = some next) :
    g.walk budget (left + 1) number p =
      (node.step g number p.state ::
          (g.walk budget left (number + 1) (p.advance node next)).1,
        (g.walk budget left (number + 1) (p.advance node next)).2) := by
  rw [walk, if_neg hnew, hnode]
  simp only [hnext]
  rfl

/-- The five things that the next step of a walk can do. -/
theorem walk_induction (g : Graph) (budget : Nat)
    {motive : Nat → Nat → Position → List Step × Option Failure → Prop}
    (spent : ∀ number p, motive 0 number p ([], some (.budgetSpent budget p.current)))
    (revisited : ∀ left number p, p.current ∈ p.passed →
      motive (left + 1) number p ([], some (.revisited p.current p.passed)))
    (unknown : ∀ left number p, p.current ∉ p.passed → g.node? p.current = none →
      motive (left + 1) number p ([], some (.unknownNode p.current)))
    (stop : ∀ left number p node, p.current ∉ p.passed → g.node? p.current = some node →
      (node.selection g p.state).next = none →
      motive (left + 1) number p ([node.step g number p.state], none))
    (advance : ∀ left number p node next steps failure, p.current ∉ p.passed →
      g.node? p.current = some node → (node.selection g p.state).next = some next →
      g.walk budget left (number + 1) (p.advance node next) = (steps, failure) →
      motive left (number + 1) (p.advance node next) (steps, failure) →
      motive (left + 1) number p (node.step g number p.state :: steps, failure))
    (left number : Nat) (p : Position) : motive left number p (g.walk budget left number p) := by
  induction left generalizing number p with
  | zero => exact spent number p
  | succ left ih =>
    by_cases hnew : p.current ∈ p.passed
    · rw [walk_revisited hnew]
      exact revisited left number p hnew
    · cases hnode : g.node? p.current with
      | none =>
        rw [walk_unknown hnew hnode]
        exact unknown left number p hnew hnode
      | some node =>
        cases hnext : (node.selection g p.state).next with
        | none =>
          rw [walk_stop hnew hnode hnext]
          exact stop left number p node hnew hnode hnext
        | some next =>
          rw [walk_next hnew hnode hnext]
          exact advance left number p node next _ _ hnew hnode hnext rfl (ih _ _)

end Graph

end WorkflowGraph
