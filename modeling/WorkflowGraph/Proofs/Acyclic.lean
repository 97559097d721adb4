import WorkflowGraph.Proofs.CycleCompleteness
import WorkflowGraph.Proofs.Itinerary
import Mathlib.Data.List.Perm.Subperm
set_option autoImplicit false

namespace WorkflowGraph.Graph

def UndeclaredTarget (g : Graph) (id : String) : Prop :=
  (∃ e ∈ g.edges, e.target = id) ∧ ∀ n ∈ g.nodes, n.id ≠ id

def Rests (g : Graph) (t : Trace) : Prop :=
  ∃ last, t.steps.getLast? = some last ∧
    (last.nodeType = .terminal ∨
      g.outgoing last.nodeId ≠ [] ∧ last.fired = [] ∧
        ∀ e ∈ g.outgoing last.nodeId, e.fires last.after = false)

def FailsUndeclared (g : Graph) (t : Trace) : Prop :=
  t.terminated = false ∧
    ∃ id, t.error = some ⟨.unreachable, "Edge leads to unknown node '" ++ id ++ "'", [id]⟩ ∧
      g.UndeclaredTarget id

variable {g : Graph} {start : Node} {budget : Nat} {initial : State}

theorem cycles_eq_nil_of_validate {schema : Option Schema}
    (h : ∀ d ∈ g.validate schema, d.kind ≠ .cycle) : g.cycles = [] := by
  apply List.eq_nil_iff_forall_not_mem.2
  intro ids hids
  obtain ⟨hmem, hkind⟩ := mem_validate_cycle_iff.2 ⟨ids, hids, rfl⟩
  exact h _ hmem hkind

theorem checks_eq_nil_of_validate (h : g.validate none = []) :
    g.checkStarts = [] ∧ g.checkDeadEnds = [] := by
  have hall := List.map_eq_nil_iff.1 h
  simp only [findings, List.append_eq_nil_iff] at hall
  exact ⟨hall.1.1.1.1.1, hall.1.2⟩

theorem outgoing_ne_nil_of_validate (h : g.validate none = []) {n : Node} (hn : n ∈ g.nodes)
    (htype : n.type ≠ .terminal) : g.outgoing n.id ≠ [] := by
  have hnone := (checks_eq_nil_of_validate h).2
  have hedges : ∀ n ∈ g.nodes, n.type ≠ .terminal → ∃ e ∈ g.edges, e.source = n.id := by
    simpa [checkDeadEnds] using hnone
  obtain ⟨e, he, hsource⟩ := hedges n hn htype
  exact List.ne_nil_of_mem (mem_outgoing.2 ⟨he, hsource⟩)

abbrev walkFrom (g : Graph) (start : Node) (budget : Nat) (initial : State) :
    List Step × Option Failure :=
  g.walk budget budget 0 ⟨start.id, initial, []⟩

theorem nodup_itinerary (hcycles : g.cycles = []) (hstart : g.start? = some start) (budget : Nat)
    (initial : State) :
    (itinerary (g.walkFrom start budget initial)).Nodup := by
  obtain ⟨ids, hids, hchain⟩ := g.walk_itinerary budget budget 0 ⟨start.id, initial, []⟩
  rw [hids]
  exact (grounded_of_cycles_eq_nil hcycles (start?_eq_some hstart)).nodup hchain

theorem length_walkFrom_le (hcycles : g.cycles = []) (hstart : g.start? = some start)
    (budget : Nat) (initial : State) :
    (g.walkFrom start budget initial).1.length ≤ g.nodes.length := by
  have hnodup : ((g.walkFrom start budget initial).1.map (·.nodeId)).Nodup :=
    (List.nodup_append.1 (nodup_itinerary hcycles hstart budget initial)).1
  have hsub : (g.walkFrom start budget initial).1.map (·.nodeId) ⊆ g.nodes.map (·.id) := by
    intro id hid
    obtain ⟨step, hstep, rfl⟩ := List.mem_map.1 hid
    obtain ⟨node, n, s, hnode, rfl⟩ := g.walk_steps _ _ _ _ step hstep
    exact List.mem_map_of_mem (node?_eq_some hnode).1
  have hlen := (List.subperm_of_subset hnodup hsub).length_le
  simpa using hlen

theorem budget_le_of_walkFrom (hcycles : g.cycles = []) (hstart : g.start? = some start)
    {b : Nat} {id : String}
    (h : (g.walkFrom start budget initial).2 = some (.budgetSpent b id)) :
    budget ≤ g.nodes.length := by
  have hlength : (g.walkFrom start budget initial).1.length = budget := length_of_walk_budgetSpent h
  exact hlength ▸ length_walkFrom_le hcycles hstart budget initial

theorem walkFrom_ne_revisited (hcycles : g.cycles = []) (hstart : g.start? = some start)
    (id : String) (passed : List String) :
    (g.walkFrom start budget initial).2 ≠ some (.revisited id passed) := by
  intro h
  have hmem := mem_of_walk_revisited h
  have hnodup := nodup_itinerary hcycles hstart budget initial
  rw [itinerary, h] at hnodup
  exact (List.nodup_append.1 hnodup).2.2 id hmem id List.mem_cons_self rfl

theorem undeclaredTarget_of_walkFrom (hstart : g.start? = some start) {id : String}
    (h : (g.walkFrom start budget initial).2 = some (.unknownNode id)) :
    g.UndeclaredTarget id := by
  obtain ⟨hnone, hid⟩ := walk_unknownNode h
  have hundeclared := node?_eq_none_iff.1 hnone
  -- The first id is that of a declared node, so it is not the one.
  rcases hid with rfl | htarget
  · exact absurd rfl (hundeclared start (start?_eq_some hstart))
  · exact ⟨htarget, hundeclared⟩

theorem failsUndeclared_of_walkFrom {id : String}
    (h : (g.walkFrom start budget initial).2 = some (.unknownNode id))
    (htarget : g.UndeclaredTarget id) :
    g.FailsUndeclared (.ofWalk initial (g.walkFrom start budget initial)) := by
  refine ⟨?_, id, ?_, htarget⟩
  · exact congrArg Option.isNone h
  · exact congrArg (Option.map Failure.diagnostic) h

theorem rests_of_walkFrom (hvalid : g.validate none = [])
    (h : (g.walkFrom start budget initial).2 = none) :
    g.Rests (.ofWalk initial (g.walkFrom start budget initial)) := by
  obtain ⟨node, n, s, hlast, hnode, hstop⟩ := g.walk_ended _ _ _ _ h
  refine ⟨node.step g n s, hlast, ?_⟩
  by_cases htype : node.type = .terminal
  · exact .inl htype
  · refine .inr ⟨outgoing_ne_nil_of_validate hvalid (node?_eq_some hnode).1 htype, ?_, ?_⟩
    · exact NodeType.fired_select_eq_nil_iff.2 hstop
    · exact (Node.next_eq_none_iff.1 hstop).resolve_left htype

/-- Without a reported cycle, a walk from the start ends by itself, fails at an undeclared target or
has used up a budget no larger than the number of nodes. -/
theorem walkFrom_ends (hcycles : g.cycles = []) (hstart : g.start? = some start) (budget : Nat)
    (initial : State) :
    (g.walkFrom start budget initial).2 = none ∨
      (∃ id, (g.walkFrom start budget initial).2 = some (.unknownNode id) ∧
        g.UndeclaredTarget id) ∨
      (∃ b id, (g.walkFrom start budget initial).2 = some (.budgetSpent b id) ∧
        budget ≤ g.nodes.length) := by
  cases h : (g.walkFrom start budget initial).2 with
  | none => exact .inl rfl
  | some f =>
    cases f with
    | noStart => exact absurd h (g.walk_ne_noStart _ _ _ _)
    | unknownNode id => exact .inr (.inl ⟨id, rfl, undeclaredTarget_of_walkFrom hstart h⟩)
    | revisited id passed => exact absurd h (walkFrom_ne_revisited hcycles hstart id passed)
    | budgetSpent b id => exact .inr (.inr ⟨b, id, rfl, budget_le_of_walkFrom hcycles hstart h⟩)

/-- Without a reported cycle a run comes to no id twice, so it is known what it can fail for, and
without any finding it is known where it rests. -/
theorem run_of_no_cycle_reported (g : Graph) (schema : Option Schema)
    (h : ∀ d ∈ g.validate schema, d.kind ≠ .cycle) (initial : State) (budget : Nat) :
    (g.run budget initial).visited.Nodup ∧
    (g.run budget initial).steps.length ≤ g.nodes.length ∧
    (g.run budget initial).errorKind ≠ some .cycle ∧
    (g.nodes.length < budget → (g.run budget initial).errorKind ≠ some .maxSteps) ∧
    ((g.run budget initial).error = none ∨
      ((g.run budget initial).error =
          some ⟨.noStart, "Graph has no Start node; nothing to run", []⟩ ∧
        ∀ n ∈ g.nodes, n.type ≠ .start) ∨
      g.FailsUndeclared (g.run budget initial) ∨
      ((g.run budget initial).errorKind = some .maxSteps ∧ budget ≤ g.nodes.length)) ∧
    (g.validate none = [] → g.nodes.length < budget →
      ((g.run budget initial).terminated = true ∧ (g.run budget initial).error = none ∧
        g.Rests (g.run budget initial)) ∨
      g.FailsUndeclared (g.run budget initial)) := by
  have hcycles := cycles_eq_nil_of_validate h
  cases hstart : g.start? with
  | none =>
    have hnodes : ∀ n ∈ g.nodes, n.type ≠ .start := start?_eq_none_iff.1 hstart
    have hkind := errorKind_run_of_no_start hstart budget initial
    rw [run_of_no_start hstart] at hkind ⊢
    refine ⟨List.nodup_nil, Nat.zero_le _, by simp [hkind], by simp [hkind],
      .inr (.inl ⟨rfl, hnodes⟩), fun hvalid => ?_⟩
    have hstarts : g.checkStarts = [] := (checks_eq_nil_of_validate hvalid).1
    rw [checkStarts, List.head?_eq_none_iff.1 hstart] at hstarts
    simp at hstarts
  | some start =>
    have hends := walkFrom_ends hcycles hstart budget initial
    rw [run_of_start hstart]
    refine ⟨?_, length_walkFrom_le hcycles hstart budget initial, ?_, fun hbudget => ?_, ?_,
      fun hvalid hbudget => ?_⟩
    · exact (List.nodup_append.1 (nodup_itinerary hcycles hstart budget initial)).1
    · rw [Ne, Trace.errorKind_ofWalk_eq_cycle_iff]
      rintro ⟨id, passed, hrevisited⟩
      exact walkFrom_ne_revisited hcycles hstart id passed hrevisited
    · rw [Ne, Trace.errorKind_ofWalk_eq_maxSteps_iff]
      rintro ⟨b, id, hspent⟩
      exact absurd (budget_le_of_walkFrom hcycles hstart hspent) (Nat.not_le.2 hbudget)
    · rcases hends with hnone | ⟨id, hid, htarget⟩ | ⟨b, id, hid, hle⟩
      · exact .inl (congrArg (Option.map Failure.diagnostic) hnone)
      · exact .inr (.inr (.inl (failsUndeclared_of_walkFrom hid htarget)))
      · exact .inr (.inr (.inr
          ⟨(Trace.errorKind_ofWalk_eq_maxSteps_iff _ _).2 ⟨b, id, hid⟩, hle⟩))
    · rcases hends with hnone | ⟨id, hid, htarget⟩ | ⟨b, id, hid, hle⟩
      · refine .inl ⟨congrArg Option.isNone hnone,
          congrArg (Option.map Failure.diagnostic) hnone, rests_of_walkFrom hvalid hnone⟩
      · exact .inr (failsUndeclared_of_walkFrom hid htarget)
      · omega

def branching : Graph :=
  ⟨[⟨"s", .start, {}⟩, ⟨"r", .router, {}⟩, ⟨"e", .terminal, {}⟩],
    [⟨"1", "s", "r", none, none⟩, ⟨"2", "r", "e", some "state.done == true", none⟩,
      ⟨"3", "r", "later", none, none⟩]⟩

theorem branching_run :
    branching.validate none = [] ∧ (branching.run 4 Fields.empty).visited.Nodup ∧
      (branching.run 4 Fields.empty).errorKind ≠ some .maxSteps ∧
      (((branching.run 4 Fields.empty).terminated = true ∧
          (branching.run 4 Fields.empty).error = none ∧
          branching.Rests (branching.run 4 Fields.empty)) ∨
        branching.FailsUndeclared (branching.run 4 Fields.empty)) := by
  have hvalid : branching.validate none = [] := by decide +kernel
  have hcycle : ∀ d ∈ branching.validate none, d.kind ≠ .cycle := by simp [hvalid]
  obtain ⟨hvisited, -, -, hkind, -, hends⟩ :=
    run_of_no_cycle_reported branching none hcycle Fields.empty 4
  exact ⟨hvalid, hvisited, hkind (by decide), hends hvalid (by decide)⟩

end WorkflowGraph.Graph
