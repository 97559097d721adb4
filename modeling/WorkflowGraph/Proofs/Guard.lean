import WorkflowGraph.Proofs.Walk
set_option autoImplicit false

namespace WorkflowGraph

theorem NodeType.apply_of_isDecision {type : NodeType} (h : type.isDecision = true) (node : Node)
    (s : State) : type.apply node s = s := by
  cases type with
  | router | loopGuard => rfl
  | start | llm | tool | reducer | terminal => simp [NodeType.isDecision] at h

namespace Graph

/-- `walk` without the test for ids that come up again. -/
def freeWalk (g : Graph) (budget : Nat) :
    (left number : Nat) → (current : String) → State → List Step × Option Failure
  | 0, _, current, _ => ([], some (.budgetSpent budget current))
  | left + 1, number, current, s =>
    match g.node? current with
    | none => ([], some (.unknownNode current))
    | some node =>
      let step := node.step g number s
      match (node.selection g s).next with
      | none => ([step], none)
      | some next =>
        let (steps, failure) := freeWalk g budget left (number + 1) next step.after
        (step :: steps, failure)

def freeRun (g : Graph) (budget : Nat) (initial : State) : Trace :=
  match g.start? with
  | none => ⟨[], initial, false, some Failure.noStart.diagnostic⟩
  | some start =>
    let (steps, failure) := g.freeWalk budget budget 0 start.id initial
    { steps
      finalState := (steps.getLast?.map (·.after)).getD initial
      terminated := failure.isNone
      error := failure.map Failure.diagnostic }

def Advances (g : Graph) (before after : String × State) : Prop :=
  ∃ node, g.node? before.1 = some node ∧ (node.selection g before.2).next = some after.1 ∧
    node.type.apply node before.2 = after.2

variable {g : Graph} {budget left number : Nat} {p : Position} {node : Node} {next : String}
  {current : String} {s : State}

theorem freeWalk_unknown (hnode : g.node? current = none) :
    g.freeWalk budget (left + 1) number current s = ([], some (.unknownNode current)) := by
  rw [freeWalk, hnode]

theorem freeWalk_stop (hnode : g.node? current = some node)
    (hstop : (node.selection g s).next = none) :
    g.freeWalk budget (left + 1) number current s = ([node.step g number s], none) := by
  rw [freeWalk, hnode]
  simp only [hstop]

theorem freeWalk_next (hnode : g.node? current = some node)
    (hnext : (node.selection g s).next = some next) :
    g.freeWalk budget (left + 1) number current s =
      (node.step g number s ::
          (g.freeWalk budget left (number + 1) next (node.type.apply node s)).1,
        (g.freeWalk budget left (number + 1) next (node.type.apply node s)).2) := by
  rw [freeWalk, hnode]
  simp only [hnext]
  rfl

/-- Without the test, a walk from here spends every budget. -/
def Loops (g : Graph) (current : String) (s : State) : Prop :=
  ∀ budget left number,
    ∃ id, (g.freeWalk budget left number current s).2 = some (.budgetSpent budget id)

theorem Advances.loops {before after : String × State} (h : g.Advances before after)
    (hloops : g.Loops after.1 after.2) : g.Loops before.1 before.2 := by
  intro budget left number
  cases left with
  | zero => exact ⟨before.1, rfl⟩
  | succ left =>
    obtain ⟨node, hnode, hnext, happly⟩ := h
    rw [freeWalk_next hnode hnext, happly]
    exact hloops budget left (number + 1)

/-- A walk that comes back to an id with the same state never ends. -/
theorem loops_of_transGen {here : String × State} (h : Relation.TransGen g.Advances here here) :
    g.Loops here.1 here.2 := by
  intro budget left
  induction left generalizing here with
  | zero => exact fun number => ⟨here.1, rfl⟩
  | succ left ih =>
    intro number
    obtain ⟨after, hstep, hback⟩ := Relation.TransGen.head'_iff.1 h
    have hafter : Relation.TransGen g.Advances after after := Relation.TransGen.tail' hback hstep
    obtain ⟨node, hnode, hnext, happly⟩ := hstep
    rw [freeWalk_next hnode hnext, happly]
    exact ih hafter (number + 1)

/-- Each passed id leads to the one after it, and the last to the current id, all with the same
state. -/
def Idle (g : Graph) (p : Position) : Prop :=
  (p.passed ++ [p.current]).IsChain fun a b => g.Advances (a, p.state) (b, p.state)

theorem idle_of_passed_eq_nil (h : p.passed = []) : g.Idle p := by
  simp [Idle, h]

theorem Idle.advance (h : g.Idle p) (hnode : g.node? p.current = some node)
    (hnext : (node.selection g p.state).next = some next) : g.Idle (p.advance node next) := by
  cases hd : node.type.isDecision with
  | false => exact idle_of_passed_eq_nil (by simp [Position.advance, hd])
  | true =>
    have hstate : (p.advance node next).state = p.state := NodeType.apply_of_isDecision hd node _
    have hstep : g.Advances (p.current, p.state) (next, p.state) :=
      ⟨node, hnode, hnext, hstate⟩
    have hpassed : (p.advance node next).passed = p.passed ++ [p.current] := by
      simp [Position.advance, hd]
    rw [Idle, hpassed, hstate]
    refine List.IsChain.append h (List.isChain_singleton _) ?_
    intro a ha b hb
    obtain rfl : a = p.current := by simpa using ha.symm
    obtain rfl : b = next := by simpa [Position.advance] using hb.symm
    exact hstep

theorem Idle.loops (h : g.Idle p) (hseen : p.current ∈ p.passed) :
    g.Loops p.current p.state := by
  -- The passed ids are a chain of steps, so each leads to the current id, and this one to itself.
  let R : String → String → Prop := fun a b => g.Advances (a, p.state) (b, p.state)
  have hlong : (p.passed ++ [p.current]).IsChain (Relation.TransGen R) :=
    h.imp fun _ _ hab => Relation.TransGen.single hab
  have hpair := List.pairwise_append.1 (List.isChain_iff_pairwise.1 hlong)
  have hback : Relation.TransGen R p.current p.current :=
    hpair.2.2 p.current hseen p.current List.mem_cons_self
  exact loops_of_transGen (hback.lift (fun id => (id, p.state)) fun _ _ hab => hab)

/-- Either the test never strikes and both walks are the same, or it strikes and the walk without
it goes on for ever. -/
theorem Idle.walk_eq_freeWalk_or_loops (budget left number : Nat) (h : g.Idle p) :
    (g.walk budget left number p = g.freeWalk budget left number p.current p.state ∧
      ∀ id passed, (g.walk budget left number p).2 ≠ some (.revisited id passed)) ∨
    ((g.walk budget left number p).1 <+: (g.freeWalk budget left number p.current p.state).1 ∧
      g.Loops p.current p.state) := by
  induction left, number, p using g.walk_induction budget with
  | spent number p => exact .inl ⟨rfl, by simp⟩
  | revisited left number p hseen => exact .inr ⟨List.nil_prefix, h.loops hseen⟩
  | unknown left number p hnew hnode =>
    rw [freeWalk_unknown hnode]
    exact .inl ⟨rfl, by simp⟩
  | stop left number p node hnew hnode hstop =>
    rw [freeWalk_stop hnode hstop]
    exact .inl ⟨rfl, by simp⟩
  | advance left number p node next steps failure hnew hnode hnext hrest ih =>
    rw [freeWalk_next hnode hnext]
    rcases ih (h.advance hnode hnext) with ⟨hsame, hnever⟩ | ⟨hsteps, hloops⟩
    · rw [Position.advance_current, Position.advance_state] at hsame
      rw [← hsame]
      exact .inl ⟨rfl, hnever⟩
    · have hstep : g.Advances (p.current, p.state) (next, node.type.apply node p.state) :=
        ⟨node, hnode, hnext, rfl⟩
      exact .inr ⟨(List.prefix_cons_inj _).2 hsteps, hstep.loops hloops⟩

theorem freeRun_of_start {start : Node} (h : g.start? = some start) (budget : Nat)
    (initial : State) :
    g.freeRun budget initial = .ofWalk initial (g.freeWalk budget budget 0 start.id initial) := by
  rw [freeRun, h]
  rfl

theorem Loops.errorKind_freeRun {start : Node} {initial : State} (h : g.Loops start.id initial)
    (hstart : g.start? = some start) (budget : Nat) :
    (g.freeRun budget initial).errorKind = some .maxSteps := by
  obtain ⟨id, hid⟩ := h budget budget 0
  rw [freeRun_of_start hstart, Trace.errorKind_ofWalk_eq_maxSteps_iff]
  exact ⟨budget, id, hid⟩

/-- The test for idle loops is transparent: it cuts a run short only if the run would go on for
ever, and else it changes nothing. -/
theorem run_eq_freeRun_or_loops (g : Graph) (initial : State) (budget : Nat) :
    (g.run budget initial).steps <+: (g.freeRun budget initial).steps ∧
    ((g.freeRun budget initial).errorKind ≠ some .maxSteps →
      g.run budget initial = g.freeRun budget initial) ∧
    ((g.run budget initial).errorKind = some .cycle →
      ∀ n, (g.freeRun n initial).errorKind = some .maxSteps) := by
  cases hstart : g.start? with
  | none =>
    have hsame : g.run budget initial = g.freeRun budget initial := by
      rw [run, freeRun, hstart]
    refine ⟨hsame ▸ List.prefix_rfl, fun _ => hsame, fun hcycle => ?_⟩
    rw [errorKind_run_of_no_start hstart] at hcycle
    simp at hcycle
  | some start =>
    have hidle : g.Idle ⟨start.id, initial, []⟩ := idle_of_passed_eq_nil rfl
    have hrun := run_of_start hstart budget initial
    have hfree := freeRun_of_start hstart budget initial
    rcases hidle.walk_eq_freeWalk_or_loops budget budget 0 with ⟨hsame, hnever⟩ | ⟨hsteps, hloops⟩
    · have heq : g.run budget initial = g.freeRun budget initial := by
        rw [hrun, hfree, hsame]
      refine ⟨heq ▸ List.prefix_rfl, fun _ => heq, fun hcycle => ?_⟩
      rw [hrun, Trace.errorKind_ofWalk_eq_cycle_iff] at hcycle
      obtain ⟨id, passed, hrevisited⟩ := hcycle
      exact absurd hrevisited (hnever id passed)
    · rw [hrun, hfree]
      refine ⟨hsteps, fun hends => ?_, fun _ n => hloops.errorKind_freeRun hstart n⟩
      rw [← hfree] at hends
      exact absurd (hloops.errorKind_freeRun hstart budget) hends

def ring : Graph :=
  ⟨[⟨"s", .start, {}⟩, ⟨"r", .router, {}⟩, ⟨"g", .loopGuard, {}⟩],
    [⟨"1", "s", "r", none, none⟩, ⟨"2", "r", "g", some "state.n > 0", none⟩,
      ⟨"3", "g", "r", none, none⟩]⟩

theorem ring_loops :
    (ring.run 10 (Fields.empty.insert "n" (.number (.int 1)))).errorKind = some .cycle ∧
      ∀ n, (ring.freeRun n (Fields.empty.insert "n" (.number (.int 1)))).errorKind =
        some .maxSteps := by
  have hcycle : (ring.run 10 (Fields.empty.insert "n" (.number (.int 1)))).errorKind =
      some .cycle := by decide +kernel
  exact ⟨hcycle, (run_eq_freeRun_or_loops ring _ 10).2.2 hcycle⟩

end Graph

end WorkflowGraph
