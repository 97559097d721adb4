import WorkflowGraph.Graph.Validation
set_option autoImplicit false

namespace WorkflowGraph

inductive Check where
  | starts
  | ends
  | reachability
  | cycles
  | deadEnds
  | fields
deriving DecidableEq, Repr

def Finding.check : Finding → Check
  | .noStart | .manyStarts _ => .starts
  | .noEnd => .ends
  | .unreachable _ => .reachability
  | .cycle _ => .cycles
  | .deadEnds _ => .deadEnds
  | .unlistedInCondition _ _ | .unlistedTarget _ _ | .unlistedCounter _ _ | .wrongCounter _ _ _ =>
    .fields

namespace Graph

def findingsOf (g : Graph) (schema : Option Schema) : Check → List Finding
  | .starts => g.checkStarts
  | .ends => g.checkEnds
  | .reachability => g.checkReachability
  | .cycles => g.checkCycles
  | .deadEnds => g.checkDeadEnds
  | .fields => (schema.map g.checkFields).getD []

variable {g : Graph} {f : Finding}

theorem check_of_mem_checkStarts (h : f ∈ g.checkStarts) : f.check = .starts := by
  unfold checkStarts at h
  split at h <;> simp_all [Finding.check]

theorem check_of_mem_checkEnds (h : f ∈ g.checkEnds) : f.check = .ends := by
  unfold checkEnds at h
  split at h <;> simp_all [Finding.check]

theorem check_of_mem_checkReachability (h : f ∈ g.checkReachability) :
    f.check = .reachability := by
  unfold checkReachability at h
  split at h
  · simp at h
  · dsimp only at h
    split at h <;> simp_all [Finding.check]

theorem check_of_mem_checkDeadEnds (h : f ∈ g.checkDeadEnds) : f.check = .deadEnds := by
  unfold checkDeadEnds at h
  dsimp only at h
  split at h <;> simp_all [Finding.check]

theorem check_of_checkCondition {schema : Schema} {e : Edge}
    (h : checkCondition schema e = some f) :
    f.check = .fields := by
  unfold checkCondition at h
  dsimp only at h
  split at h
  · simp at h
  · exact Option.some.inj h ▸ rfl

theorem check_of_checkSetting {schema : Schema} {n : Node} (h : checkSetting schema n = some f) :
    f.check = .fields := by
  unfold checkSetting at h
  split at h
  · obtain ⟨field, -, hfield⟩ := Option.bind_eq_some_iff.1 h
    split at hfield
    · simp at hfield
    · exact Option.some.inj hfield ▸ rfl
  · obtain ⟨field, -, hfield⟩ := Option.bind_eq_some_iff.1 h
    split at hfield
    · exact Option.some.inj hfield ▸ rfl
    · split at hfield
      · simp at hfield
      · exact Option.some.inj hfield ▸ rfl
  · simp at h

theorem check_of_mem_checkFields {schema : Schema} (h : f ∈ g.checkFields schema) :
    f.check = .fields := by
  rcases List.mem_append.1 h with h | h
  · obtain ⟨e, -, he⟩ := List.mem_filterMap.1 h
    exact check_of_checkCondition he
  · obtain ⟨n, -, hn⟩ := List.mem_filterMap.1 h
    exact check_of_checkSetting hn

theorem check_of_mem_findingsOf {schema : Option Schema} {c : Check}
    (h : f ∈ g.findingsOf schema c) : f.check = c := by
  cases c with
  | starts => exact check_of_mem_checkStarts h
  | ends => exact check_of_mem_checkEnds h
  | reachability => exact check_of_mem_checkReachability h
  | cycles =>
    obtain ⟨ids, -, rfl⟩ := List.mem_map.1 h
    rfl
  | deadEnds => exact check_of_mem_checkDeadEnds h
  | fields =>
    cases schema with
    | none => simp [findingsOf] at h
    | some schema => exact check_of_mem_checkFields h

theorem filter_findingsOf (g : Graph) (schema : Option Schema) (c d : Check) :
    (g.findingsOf schema c).filter (·.check = d) = if c = d then g.findingsOf schema c else [] := by
  split
  · rename_i heq
    exact List.filter_eq_self.2 fun f hf =>
      decide_eq_true ((check_of_mem_findingsOf hf).trans heq)
  · rename_i hne
    exact List.filter_eq_nil_iff.2 fun f hf hcheck =>
      hne ((check_of_mem_findingsOf hf).symm.trans (of_decide_eq_true hcheck))

theorem filter_findings (g : Graph) (schema : Option Schema) (c : Check) :
    (g.findings schema).filter (·.check = c) = g.findingsOf schema c := by
  have hall : g.findings schema = g.findingsOf schema .starts ++ g.findingsOf schema .ends
      ++ g.findingsOf schema .reachability ++ g.findingsOf schema .cycles
      ++ g.findingsOf schema .deadEnds ++ g.findingsOf schema .fields := rfl
  rw [hall]
  simp only [List.filter_append, filter_findingsOf]
  cases c <;> simp

/-- Diagnostics are told apart as the findings are that they stand for. -/
theorem filter_validate {g : Graph} {schema : Option Schema} {c : Check} {q : Diagnostic → Prop}
    [DecidablePred q] (hq : ∀ f : Finding, q f.diagnostic ↔ f.check = c) :
    (g.validate schema).filter q = (g.findingsOf schema c).map Finding.diagnostic := by
  rw [validate, List.filter_map, ← filter_findings]
  exact congrArg _ (List.filter_congr fun f _ => decide_eq_decide.2 (hq f))

end Graph

end WorkflowGraph
