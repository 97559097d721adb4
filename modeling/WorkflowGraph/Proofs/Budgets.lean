import WorkflowGraph.Proofs.Walk
set_option autoImplicit false

namespace WorkflowGraph.Graph

variable {g : Graph} {left more : Nat}

theorem walk_of_more_left (g : Graph) (budget larger number : Nat) (p : Position)
    (hmore : left ≤ more) :
    (g.walk budget left number p).1 = (g.walk larger more number p).1.take left ∧
      (g.walk budget left number p = g.walk larger more number p ∨
        ∃ id, (g.walk budget left number p).2 = some (.budgetSpent budget id)) := by
  induction left, number, p using g.walk_induction budget generalizing more with
  | spent number p => exact ⟨rfl, .inr ⟨p.current, rfl⟩⟩
  | revisited left number p hseen =>
    obtain ⟨more, rfl⟩ : ∃ n, more = n + 1 := ⟨more - 1, by omega⟩
    rw [walk_revisited hseen]
    exact ⟨rfl, .inl rfl⟩
  | unknown left number p hnew hnode =>
    obtain ⟨more, rfl⟩ : ∃ n, more = n + 1 := ⟨more - 1, by omega⟩
    rw [walk_unknown hnew hnode]
    exact ⟨rfl, .inl rfl⟩
  | stop left number p node hnew hnode hstop =>
    obtain ⟨more, rfl⟩ : ∃ n, more = n + 1 := ⟨more - 1, by omega⟩
    rw [walk_stop hnew hnode hstop]
    exact ⟨by simp, .inl rfl⟩
  | advance left number p node next steps failure hnew hnode hnext _ ih =>
    obtain ⟨more, rfl⟩ : ∃ n, more = n + 1 := ⟨more - 1, by omega⟩
    obtain ⟨hsteps, hsame⟩ := ih (by omega : left ≤ more)
    rw [walk_next hnew hnode hnext]
    refine ⟨?_, hsame.imp_left fun heq => ?_⟩
    · rw [List.take_succ_cons, ← hsteps]
    · rw [← heq]

/-- A run with a larger budget starts with the steps of the run with the smaller one, and it is the
same run unless the smaller budget was spent. -/
theorem run_take_budget (g : Graph) (initial : State) (budget larger : Nat) (h : budget ≤ larger) :
    (g.run budget initial).steps = (g.run larger initial).steps.take budget ∧
    ((g.run budget initial).errorKind ≠ some .maxSteps →
      g.run budget initial = g.run larger initial) := by
  cases hstart : g.start? with
  | none =>
    rw [run_of_no_start hstart, run_of_no_start hstart]
    exact ⟨List.take_nil.symm, fun _ => rfl⟩
  | some start =>
    obtain ⟨hsteps, hsame⟩ := g.walk_of_more_left budget larger 0 ⟨start.id, initial, []⟩ h
    rw [run_of_start hstart, run_of_start hstart]
    refine ⟨hsteps, fun hkind => ?_⟩
    rcases hsame with heq | ⟨id, hspent⟩
    · rw [heq]
    · exact absurd ((Trace.errorKind_ofWalk_eq_maxSteps_iff _ _).2 ⟨budget, id, hspent⟩) hkind

def short : Graph := ⟨[⟨"s", .start, {}⟩, ⟨"e", .terminal, {}⟩], [⟨"1", "s", "e", none, none⟩]⟩

theorem short_run_of_more :
    (short.run 1 Fields.empty).steps = (short.run 2 Fields.empty).steps.take 1 ∧
      (short.run 2 Fields.empty).errorKind ≠ some .maxSteps ∧
      short.run 2 Fields.empty = short.run 50 Fields.empty := by
  have hkind : (short.run 2 Fields.empty).errorKind ≠ some .maxSteps := by decide +kernel
  exact ⟨(run_take_budget short Fields.empty 1 2 (by decide)).1, hkind,
    (run_take_budget short Fields.empty 2 50 (by decide)).2 hkind⟩

end WorkflowGraph.Graph
