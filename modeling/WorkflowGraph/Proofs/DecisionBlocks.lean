import WorkflowGraph.Proofs.Declarations
import WorkflowGraph.Proofs.Itinerary
import Mathlib.Data.Finset.Card
import Mathlib.Data.Finset.Filter
set_option autoImplicit false

namespace WorkflowGraph

/-- No step of an id in `s` has the id of one before it in its block; the block at the front goes on
from the ids `passed`. -/
inductive Fresh (s : Finset String) : List String → List Step → Prop
  | nil {passed : List String} : Fresh s passed []
  | decision {passed : List String} {step : Step} {steps : List Step} :
    step.nodeId ∈ s → step.nodeId ∉ passed → Fresh s (passed ++ [step.nodeId]) steps →
      Fresh s passed (step :: steps)
  | other {passed : List String} {step : Step} {steps : List Step} :
    step.nodeId ∉ s → Fresh s [] steps → Fresh s passed (step :: steps)

def otherSteps (s : Finset String) (steps : List Step) : Nat := steps.countP (·.nodeId ∉ s)

variable {s : Finset String} {passed : List String} {steps block : List Step}

theorem Fresh.nodup_front (h : Fresh s passed steps) (hpassed : passed.Nodup)
    (hblock : block <+: steps) (hall : ∀ step ∈ block, step.nodeId ∈ s) :
    (passed ++ block.map (·.nodeId)).Nodup := by
  induction h generalizing block with
  | nil =>
    rw [List.prefix_nil.1 hblock]
    simpa using hpassed
  | decision _ hnew _ ih =>
    rcases List.prefix_cons_iff.1 hblock with rfl | ⟨rest, rfl, hrest⟩
    · simpa using hpassed
    · have hnodup := ih (List.concat_eq_append ▸ hpassed.concat hnew) hrest
        fun t ht => hall t (List.mem_cons_of_mem _ ht)
      simpa using hnodup
  | other hother _ _ =>
    rcases List.prefix_cons_iff.1 hblock with rfl | ⟨rest, rfl, -⟩
    · simpa using hpassed
    · exact absurd (hall _ List.mem_cons_self) hother

theorem Fresh.nodup_block (h : Fresh s passed steps) (hpassed : passed.Nodup)
    (hblock : block <:+: steps) (hall : ∀ step ∈ block, step.nodeId ∈ s) :
    (block.map (·.nodeId)).Nodup := by
  have hfront : ∀ {passed steps}, Fresh s passed steps → passed.Nodup → block <+: steps →
      (block.map (·.nodeId)).Nodup :=
    fun h hpassed hblock => (h.nodup_front hpassed hblock hall).of_append_right
  induction h with
  | nil => exact hfront .nil hpassed (List.infix_nil.1 hblock ▸ List.prefix_rfl)
  | decision hstep hnew hrest ih =>
    rcases List.infix_cons_iff.1 hblock with hblock | hblock
    · exact hfront (.decision hstep hnew hrest) hpassed hblock
    · exact ih (List.concat_eq_append ▸ hpassed.concat hnew) hblock
  | other hother hrest ih =>
    rcases List.infix_cons_iff.1 hblock with hblock | hblock
    · exact hfront (.other hother hrest) hpassed hblock
    · exact ih List.nodup_nil hblock

theorem length_le_card {ids : List String} (hids : ids.Nodup) (hmem : ∀ id ∈ ids, id ∈ s) :
    ids.length ≤ s.card := by
  rw [← List.toFinset_card_of_nodup hids]
  exact Finset.card_le_card fun id hid => hmem id (List.mem_toFinset.1 hid)

/-- Each step of another id ends one block, and one block may follow the last of them. -/
theorem Fresh.length_le (h : Fresh s passed steps) (hpassed : passed.Nodup)
    (hmem : ∀ id ∈ passed, id ∈ s) :
    passed.length + steps.length ≤ otherSteps s steps + s.card * (otherSteps s steps + 1) := by
  induction h with
  | nil => simpa [otherSteps] using length_le_card hpassed hmem
  | @decision passed step steps hstep hnew _ ih =>
    have hrest := ih (List.concat_eq_append ▸ hpassed.concat hnew)
      (by simpa [or_imp, forall_and] using ⟨hmem, hstep⟩)
    have hcount : otherSteps s (step :: steps) = otherSteps s steps := by simp [otherSteps, hstep]
    rw [List.length_append, List.length_singleton] at hrest
    rw [hcount, List.length_cons]
    omega
  | @other passed step steps hother _ ih =>
    -- The block that ends here is at most as long as the set, and a new one starts from nothing.
    have hcard := length_le_card hpassed hmem
    have hrest := ih List.nodup_nil (by simp)
    have hcount : otherSteps s (step :: steps) = otherSteps s steps + 1 := by
      simp [otherSteps, hother]
    rw [List.length_nil] at hrest
    rw [hcount, List.length_cons, Nat.mul_add, Nat.mul_one]
    omega

namespace Graph

variable {g : Graph} {node : Node}

def decisionIds (g : Graph) : Finset String :=
  {id ∈ (g.nodes.map (·.id)).toFinset | (g.node? id).any (·.type.isDecision)}

theorem mem_decisionIds {id : String} : id ∈ g.decisionIds ↔
    ∃ node, g.IsLastDeclared node ∧ node.id = id ∧ node.type.isDecision = true := by
  have hany : (g.node? id).any (·.type.isDecision) = true ↔
      ∃ node, g.IsLastDeclared node ∧ node.id = id ∧ node.type.isDecision = true := by
    simp only [Option.any_eq_true, node?_eq_some_iff, and_assoc]
  rw [decisionIds, Finset.mem_filter, hany, List.mem_toFinset, List.mem_map]
  constructor
  · exact fun h => h.2
  · rintro ⟨node, hnode, hid, hdecides⟩
    have hmem := (node?_eq_some (node?_eq_some_iff.2 ⟨hnode, rfl⟩)).1
    exact ⟨⟨node, hmem, hid⟩, node, hnode, hid, hdecides⟩

theorem isDecision_iff_mem_decisionIds (h : g.node? node.id = some node) :
    node.type.isDecision = true ↔ node.id ∈ g.decisionIds := by
  rw [mem_decisionIds]
  constructor
  · exact fun hdecides => ⟨node, (node?_eq_some_iff.1 h).1, rfl, hdecides⟩
  · rintro ⟨other, hother, hid, hdecides⟩
    have hsame := h.symm.trans (node?_eq_some_iff.2 ⟨hother, hid⟩)
    exact Option.some.inj hsame ▸ hdecides

theorem fresh_step {p : Position} (hnew : p.current ∉ p.passed)
    (hnode : g.node? p.current = some node) (number : Nat)
    (hrest : Fresh g.decisionIds (if node.type.isDecision then p.passed ++ [p.current] else [])
      steps) :
    Fresh g.decisionIds p.passed (node.step g number p.state :: steps) := by
  have hid : node.id = p.current := (node?_eq_some hnode).2
  have hdecides := isDecision_iff_mem_decisionIds (hid ▸ hnode)
  rw [← hid] at hnew hrest
  by_cases hd : node.type.isDecision = true
  · exact .decision (hdecides.1 hd) hnew (by simpa [hd, Node.step] using hrest)
  · exact .other (fun hmem => hd (hdecides.2 hmem)) (by simpa [hd] using hrest)

theorem fresh_walk (g : Graph) (budget left number : Nat) (p : Position) :
    Fresh g.decisionIds p.passed (g.walk budget left number p).1 := by
  induction left, number, p using g.walk_induction budget with
  | spent | revisited | unknown => exact .nil
  | stop _ number _ _ hnew hnode => exact fresh_step hnew hnode number .nil
  | advance _ number _ _ _ _ _ hnew hnode _ _ ih => exact fresh_step hnew hnode number ih

theorem fresh_run (g : Graph) (budget : Nat) (initial : State) :
    Fresh g.decisionIds [] (g.run budget initial).steps := by
  cases hstart : g.start? with
  | none =>
    rw [run_of_no_start hstart]
    exact .nil
  | some start =>
    rw [run_of_start hstart]
    exact g.fresh_walk budget budget 0 ⟨start.id, initial, []⟩

theorem isDecision_iff_of_mem_run {budget : Nat} {initial : State} {step : Step}
    (h : step ∈ (g.run budget initial).steps) :
    step.nodeType.isDecision = true ↔ step.nodeId ∈ g.decisionIds := by
  cases hstart : g.start? with
  | none => simp [run_of_no_start hstart] at h
  | some start =>
    rw [run_of_start hstart] at h
    obtain ⟨node, n, s, hnode, rfl⟩ := g.walk_steps budget budget 0 ⟨start.id, initial, []⟩ step h
    exact isDecision_iff_mem_decisionIds hnode

/-- In a block of decision steps no id comes up twice, so it has at most one step for each decision
node. A run has at most one such block before each step of another node, and one after them all. -/
theorem run_decision_blocks (g : Graph) (budget : Nat) (initial : State) :
    (∀ step ∈ (g.run budget initial).steps,
      step.nodeType.isDecision = true ↔ step.nodeId ∈ g.decisionIds) ∧
    (∀ block, block <:+: (g.run budget initial).steps →
      (∀ step ∈ block, step.nodeId ∈ g.decisionIds) →
        (block.map (·.nodeId)).Nodup ∧ block.length ≤ g.decisionIds.card) ∧
    (g.run budget initial).steps.length ≤
      otherSteps g.decisionIds (g.run budget initial).steps +
        g.decisionIds.card * (otherSteps g.decisionIds (g.run budget initial).steps + 1) := by
  have hfresh := g.fresh_run budget initial
  refine ⟨fun step => isDecision_iff_of_mem_run, fun block hblock hall => ?_, ?_⟩
  · have hnodup := hfresh.nodup_block List.nodup_nil hblock hall
    have hcard := length_le_card hnodup (by simpa using hall)
    exact ⟨hnodup, by simpa using hcard⟩
  · simpa using hfresh.length_le List.nodup_nil (by simp)

def patrol : Graph :=
  ⟨[⟨"s", .start, {}⟩, ⟨"t", .router, {}⟩, ⟨"r", .router, {}⟩, ⟨"g", .loopGuard, {}⟩,
      ⟨"t", .tool, {}⟩],
    [⟨"1", "s", "r", none, none⟩, ⟨"2", "r", "g", none, none⟩, ⟨"3", "g", "t", none, none⟩,
      ⟨"4", "t", "r", none, none⟩]⟩

theorem patrol_blocks :
    patrol.decisionIds = {"r", "g"} ∧
    (((patrol.run 8 Fields.empty).steps.drop 4).take 2).map (·.nodeId) = ["r", "g"] ∧
    (((patrol.run 8 Fields.empty).steps.drop 4).take 2).length ≤ 2 ∧
    (patrol.run 8 Fields.empty).steps.length ≤ 3 + 2 * (3 + 1) := by
  have hids : patrol.decisionIds = {"r", "g"} := by decide +kernel
  obtain ⟨-, hblock, hlength⟩ := run_decision_blocks patrol 8 Fields.empty
  have hinfix : ((patrol.run 8 Fields.empty).steps.drop 4).take 2 <:+:
      (patrol.run 8 Fields.empty).steps :=
    (List.take_prefix _ _).isInfix.trans (List.drop_suffix _ _).isInfix
  have hnodes :
      (((patrol.run 8 Fields.empty).steps.drop 4).take 2).map (·.nodeId) = ["r", "g"] := by
    decide +kernel
  have hall : ∀ step ∈ ((patrol.run 8 Fields.empty).steps.drop 4).take 2,
      step.nodeId ∈ patrol.decisionIds := by
    intro step hstep
    have hmem : step.nodeId ∈ ["r", "g"] := hnodes ▸ List.mem_map_of_mem hstep
    rw [hids]
    simpa using hmem
  have hcard : patrol.decisionIds.card = 2 := by rw [hids]; rfl
  have hothers : otherSteps patrol.decisionIds (patrol.run 8 Fields.empty).steps = 3 := by
    rw [hids]
    decide +kernel
  rw [hcard, hothers] at hlength
  exact ⟨hids, hnodes, hcard ▸ (hblock _ hinfix hall).2, hlength⟩

end Graph

end WorkflowGraph
