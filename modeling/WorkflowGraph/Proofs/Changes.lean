import WorkflowGraph.Proofs.LastWrites
set_option autoImplicit false

namespace WorkflowGraph

namespace State

def assign (s : State) (pairs : List (String × Json)) : State :=
  pairs.foldl (fun s e => s.insert e.1 e.2) s

/-- No key is lost, and a new value in place of an old one is the same only if it is equal to it. -/
structure Extends (before after : State) : Prop where
  kept : ∀ key, after.get? key = none → before.get? key = none
  eq_of_same : ∀ key old new, before.get? key = some old → after.get? key = some new →
    old.same new = true → old = new

variable {s before after : State} {pairs : List (String × Json)} {key : String} {value : Json}

theorem assign_append (s : State) (pairs more : List (String × Json)) :
    s.assign (pairs ++ more) = (s.assign pairs).assign more := List.foldl_append

theorem get?_assign (h : pairs.Pairwise (fun a b => a.1 < b.1)) (s : State) (key : String) :
    (s.assign pairs).get? key = (Fields.find? key pairs).or (s.get? key) := by
  induction pairs generalizing s with
  | nil => rfl
  | cons head rest ih =>
    obtain ⟨k, v⟩ := head
    obtain ⟨hhead, hrest⟩ := List.pairwise_cons.1 h
    have hcons : s.assign ((k, v) :: rest) = State.assign (s.insert k v) rest := rfl
    rw [hcons, ih hrest, Fields.find?, Fields.get?_insert]
    by_cases hk : k = key
    · subst hk
      -- Later keys are greater, so none of them overwrites the value.
      have hnone : Fields.find? k rest = none :=
        Option.eq_none_iff_forall_ne_some.2 fun w hw =>
          String.lt_irrefl k (hhead _ ((Fields.find?_eq_some_iff hrest).1 hw))
      rw [hnone, if_pos rfl, if_pos rfl]
      rfl
    · rw [if_neg hk, if_neg hk]

theorem pairwise_changes (before after : State) :
    (changes before after).Pairwise fun a b => a.1 < b.1 := after.ascending.filter _

theorem mem_changes_iff : (key, value) ∈ changes before after ↔
    after.get? key = some value ∧ ∀ old, before.get? key = some old → old.same value = false := by
  rw [changes, List.mem_filter, Fields.get?_eq_some_iff]
  refine and_congr_right fun _ => ?_
  cases before.get? key <;> simp

namespace Extends

variable (h : Extends before after)

include h

theorem mem_changes_iff : (key, value) ∈ changes before after ↔
    after.get? key = some value ∧ before.get? key ≠ some value := by
  rw [State.mem_changes_iff]
  refine and_congr_right fun hvalue => ⟨fun hold heq => ?_, fun hne old hold => ?_⟩
  · exact absurd (hold value heq) (by rw [Json.same_self]; decide)
  · refine Bool.eq_false_iff.2 fun hsame => hne ?_
    rw [hold, h.eq_of_same key old value hold hvalue hsame]

theorem mem_keys_changes_iff : key ∈ (changes before after).map (·.1) ↔
    before.get? key ≠ after.get? key := by
  constructor
  · intro hkey
    obtain ⟨⟨_, value⟩, hmem, rfl⟩ := List.mem_map.1 hkey
    obtain ⟨hafter, hbefore⟩ := h.mem_changes_iff.1 hmem
    rwa [hafter]
  · intro hne
    cases hafter : after.get? key with
    | none => exact absurd ((h.kept key hafter).trans hafter.symm) hne
    | some value =>
      exact List.mem_map.2 ⟨(key, value), h.mem_changes_iff.2 ⟨hafter, hafter ▸ hne⟩, rfl⟩

theorem assign_changes : before.assign (changes before after) = after := by
  refine Fields.ext_get? fun key => ?_
  rw [get?_assign (pairwise_changes before after)]
  cases hfind : Fields.find? key (changes before after) with
  | some value =>
    have hmem := (Fields.find?_eq_some_iff (pairwise_changes before after)).1 hfind
    exact (h.mem_changes_iff.1 hmem).1.symm
  | none =>
    by_contra hne
    obtain ⟨⟨_, value⟩, hmem, rfl⟩ := List.mem_map.1 (h.mem_keys_changes_iff.2 hne)
    rw [(Fields.find?_eq_some_iff (pairwise_changes before after)).2 hmem] at hfind
    exact Option.some_ne_none value hfind

end Extends

end State

namespace Node

/-- What nodes write are strings and truth values. -/
theorem eq_of_same_written {node : Node} {key : String} {value old : Json}
    (h : node.written? key = some value) (hsame : old.same value = true) : old = value := by
  have hplain : (∃ t, value = .string t) ∨ ∃ b, value = .bool b := by
    unfold written? at h
    cases node.type <;> grind
  rcases hplain with ⟨t, rfl⟩ | ⟨b, rfl⟩
  · exact (Json.same_string_iff old t).1 hsame
  · exact (Json.same_bool_iff old b).1 hsame

theorem extends_apply (node : Node) (s : State) : State.Extends s (node.type.apply node s) where
  kept key hnone := by
    rw [get?_apply, Option.or_eq_none_iff] at hnone
    exact hnone.2
  eq_of_same key old new hold hnew hsame := by
    rw [get?_apply] at hnew
    cases hwritten : node.written? key with
    | some value =>
      rw [hwritten, Option.some_or] at hnew
      exact eq_of_same_written (hwritten.trans hnew) hsame
    | none =>
      rw [hwritten, Option.none_or, hold] at hnew
      exact Option.some.inj hnew

end Node

namespace Graph

variable {g : Graph} {initial : State}

theorem run_extends (g : Graph) (budget : Nat) (initial : State) :
    (∀ step ∈ (g.run budget initial).steps, State.Extends step.before step.after) ∧
      initial.assign ((g.run budget initial).steps.flatMap Step.changes) =
        (g.run budget initial).finalState := by
  refine run_induction
    (motive := fun steps s => (∀ step ∈ steps, State.Extends step.before step.after) ∧
      initial.assign (steps.flatMap Step.changes) = s)
    ⟨by simp, rfl⟩ (fun steps s node _ ih => ?_) budget
  have hextends := node.extends_apply s
  refine ⟨fun step hstep => ?_, ?_⟩
  · rcases List.mem_append.1 hstep with hstep | hstep
    · exact ih.1 step hstep
    · exact List.mem_singleton.1 hstep ▸ hextends
  · rw [List.flatMap_append, State.assign_append, ih.2, List.flatMap_singleton]
    exact hextends.assign_changes

/-- The changes of a step are in ascending order of their keys, and they are the values in the state
after it that the state before it does not have. They lead from the one state to the other, and
those of all steps lead from the initial state to the final state. -/
theorem run_changes (g : Graph) (budget : Nat) (initial : State) :
    (∀ step ∈ (g.run budget initial).steps,
      step.changes.Pairwise (fun a b => a.1 < b.1) ∧
      (∀ key value, (key, value) ∈ step.changes ↔
        step.after.get? key = some value ∧ step.before.get? key ≠ some value) ∧
      (∀ key, key ∈ step.changes.map (·.1) ↔ step.before.get? key ≠ step.after.get? key) ∧
      step.before.assign step.changes = step.after) ∧
    initial.assign ((g.run budget initial).steps.flatMap Step.changes) =
      (g.run budget initial).finalState := by
  obtain ⟨hsteps, hfinal⟩ := run_extends g budget initial
  exact ⟨fun step hstep => ⟨State.pairwise_changes _ _,
    fun _ _ => (hsteps step hstep).mem_changes_iff,
    fun _ => (hsteps step hstep).mem_keys_changes_iff,
    (hsteps step hstep).assign_changes⟩, hfinal⟩

def merging : Graph :=
  ⟨[⟨"s", .start, {}⟩, ⟨"r", .reducer, {}⟩, ⟨"q", .reducer, {}⟩],
    [⟨"1", "s", "r", none, none⟩, ⟨"2", "r", "q", none, none⟩]⟩

def marked : State := Fields.empty.insert "reduced" (.bool true)

theorem merging_changes :
    (∀ step ∈ (merging.run 3 marked).steps,
      step.before.get? "reduced" = step.after.get? "reduced") ∧
    marked.assign [("_lastReducerNode", .string "r"), ("_lastReducerNode", .string "q")] =
      (merging.run 3 marked).finalState := by
  obtain ⟨hsteps, hfinal⟩ := run_changes merging 3 marked
  have hchanges : (merging.run 3 marked).steps.flatMap Step.changes =
      [("_lastReducerNode", .string "r"), ("_lastReducerNode", .string "q")] := by
    with_unfolding_all rfl
  refine ⟨fun step hstep => ?_, hchanges ▸ hfinal⟩
  by_contra hne
  obtain ⟨e, he, hkey⟩ := List.mem_map.1 (((hsteps step hstep).2.2.1 "reduced").2 hne)
  have hmem := List.mem_flatMap_of_mem hstep he
  rw [hchanges] at hmem
  rcases e with ⟨k, v⟩
  obtain rfl : k = "reduced" := hkey
  simp at hmem

end Graph

end WorkflowGraph
