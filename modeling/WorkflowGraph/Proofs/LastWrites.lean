import WorkflowGraph.Proofs.Progress
set_option autoImplicit false

namespace WorkflowGraph

namespace Node

def written? (node : Node) (key : String) : Option Json :=
  match node.type with
  | .llm =>
    if key = "_lastLLMNode" then some (.string node.id)
    else if key = "llmOutput" then some (.string ("[mock LLM output from " ++ node.id ++ "]"))
    else none
  | .tool =>
    if key = "_lastToolNode" then some (.string node.id)
    else if key = "toolOutput" then
      some (.string ("[mock output from tool " ++ (node.setting? "toolName").getD node.id ++ "]"))
    else none
  | .reducer =>
    if key = "_lastReducerNode" then some (.string node.id)
    else if key = (node.setting? "reduceKey").getD "reduced" then some (.bool true)
    else none
  | .start | .router | .loopGuard | .terminal => none

/-- The later of two insertions counts. -/
theorem get?_insert_insert (s : State) (first second : String) (v w : Json) (key : String) :
    ((s.insert first v).insert second w).get? key =
      (if key = second then some w else if key = first then some v else none).or (s.get? key) := by
  rw [Fields.get?_insert, Fields.get?_insert]
  by_cases hsecond : key = second
  · simp [hsecond]
  · by_cases hfirst : key = first
    · rw [if_neg (Ne.symm hsecond), if_neg hsecond, if_pos hfirst.symm, if_pos hfirst]
      rfl
    · rw [if_neg (Ne.symm hsecond), if_neg hsecond, if_neg (Ne.symm hfirst), if_neg hfirst]
      rfl

theorem get?_apply (node : Node) (s : State) (key : String) :
    (node.type.apply node s).get? key = (node.written? key).or (s.get? key) := by
  unfold NodeType.apply NodeType.writes written?
  cases node.type with
  | start | router | loopGuard | terminal => rfl
  | llm | tool | reducer => exact get?_insert_insert s _ _ _ _ key

theorem written?_lastReducerNode (node : Node) :
    node.written? "_lastReducerNode" =
      if node.type = .reducer then some (.string node.id) else none := by
  unfold written?
  cases node.type <;> simp

end Node

namespace Graph

def written? (g : Graph) (step : Step) (key : String) : Option Json :=
  (g.node? step.nodeId).bind (·.written? key)

def lastWritten? (g : Graph) (steps : List Step) (key : String) : Option Json :=
  steps.reverse.findSome? (g.written? · key)

variable {g : Graph} {steps earlier later : List Step} {step : Step} {key : String} {value : Json}
  {initial : State} {node : Node}

theorem written?_step (hnode : g.node? node.id = some node) (number : Nat) (s : State)
    (key : String) : g.written? (node.step g number s) key = node.written? key := by
  change (g.node? node.id).bind _ = _
  rw [hnode]
  rfl

theorem lastWritten?_concat (g : Graph) (steps : List Step) (step : Step) (key : String) :
    g.lastWritten? (steps ++ [step]) key =
      (g.written? step key).or (g.lastWritten? steps key) := by
  rw [lastWritten?, List.reverse_append, List.reverse_singleton, List.singleton_append,
    List.findSome?_cons]
  cases g.written? step key <;> rfl

theorem lastWritten?_eq_some (hstep : g.written? step key = some value)
    (hlater : ∀ s ∈ later, g.written? s key = none) :
    g.lastWritten? (earlier ++ step :: later) key = some value := by
  have hnone : later.reverse.findSome? (g.written? · key) = none :=
    List.findSome?_eq_none_iff.2 fun s hs => hlater s (List.mem_reverse.1 hs)
  rw [lastWritten?, List.reverse_append, List.reverse_cons, List.append_assoc,
    List.findSome?_append, hnone, List.singleton_append, List.findSome?_cons, hstep]
  rfl

theorem lastWritten?_eq_none (h : ∀ step ∈ steps, g.written? step key = none) :
    g.lastWritten? steps key = none :=
  List.findSome?_eq_none_iff.2 fun s hs => h s (List.mem_reverse.1 hs)

theorem get?_finalState (g : Graph) (budget : Nat) (initial : State) (key : String) :
    (g.run budget initial).finalState.get? key =
      (g.lastWritten? (g.run budget initial).steps key).or (initial.get? key) := by
  refine run_induction
    (motive := fun steps s => s.get? key = (g.lastWritten? steps key).or (initial.get? key))
    rfl (fun steps s node hnode ih => ?_) budget
  rw [Node.get?_apply, ih, lastWritten?_concat, written?_step hnode, Option.or_assoc]

/-- A key that is there stays there. -/
theorem isSome_get?_after (g : Graph) (budget : Nat) (hkey : (initial.get? key).isSome) :
    ((g.run budget initial).finalState.get? key).isSome ∧
      ∀ step ∈ (g.run budget initial).steps, (step.after.get? key).isSome := by
  refine run_induction
    (motive := fun steps s => (s.get? key).isSome ∧ ∀ step ∈ steps, (step.after.get? key).isSome)
    ⟨hkey, by simp⟩ (fun steps s node _ ih => ?_) budget
  have hafter : ((node.type.apply node s).get? key).isSome := by
    rw [Node.get?_apply, Option.isSome_or, ih.1, Bool.or_true]
  refine ⟨hafter, fun step hstep => ?_⟩
  rcases List.mem_append.1 hstep with hstep | hstep
  · exact ih.2 step hstep
  · exact List.mem_singleton.1 hstep ▸ hafter

theorem written?_lastReducerNode (g : Graph) (budget : Nat) (initial : State) :
    ∀ step ∈ (g.run budget initial).steps, g.written? step "_lastReducerNode" =
      if step.nodeType = .reducer then some (.string step.nodeId) else none := by
  refine run_induction (motive := fun steps _ => ∀ step ∈ steps,
    g.written? step "_lastReducerNode" =
      if step.nodeType = .reducer then some (.string step.nodeId) else none)
    (by simp) (fun steps s node hnode ih step hstep => ?_) budget
  rcases List.mem_append.1 hstep with hstep | hstep
  · exact ih step hstep
  · obtain rfl := List.mem_singleton.1 hstep
    rw [written?_step hnode, Node.written?_lastReducerNode]
    rfl

/-- In each key the final state has what the last step that writes to the key writes there, or else
what the initial state has. -/
theorem run_lastWrites (g : Graph) (budget : Nat) (initial : State) :
    (∀ key value earlier step later, (g.run budget initial).steps = earlier ++ step :: later →
      g.written? step key = some value → (∀ s ∈ later, g.written? s key = none) →
        (g.run budget initial).finalState.get? key = some value) ∧
    (∀ key, (∀ step ∈ (g.run budget initial).steps, g.written? step key = none) →
      (g.run budget initial).finalState.get? key = initial.get? key) ∧
    (∀ key, (initial.get? key).isSome →
      ((g.run budget initial).finalState.get? key).isSome ∧
        ∀ step ∈ (g.run budget initial).steps, (step.after.get? key).isSome) ∧
    ∀ earlier step later, (g.run budget initial).steps = earlier ++ step :: later →
      step.nodeType = .reducer → (∀ s ∈ later, s.nodeType ≠ .reducer) →
        (g.run budget initial).finalState.get? "_lastReducerNode" =
          some (.string step.nodeId) := by
  refine ⟨fun key value earlier step later hsteps hstep hlater => ?_, fun key hnone => ?_,
    fun key hkey => isSome_get?_after g budget hkey,
    fun earlier step later hsteps hstep hlater => ?_⟩
  · rw [get?_finalState, hsteps, lastWritten?_eq_some hstep hlater]
    rfl
  · rw [get?_finalState, lastWritten?_eq_none hnone]
    rfl
  · have hwritten := written?_lastReducerNode g budget initial
    rw [hsteps] at hwritten
    have hvalue : g.written? step "_lastReducerNode" = some (.string step.nodeId) := by
      rw [hwritten step (by simp), if_pos hstep]
    have hnone : ∀ s ∈ later, g.written? s "_lastReducerNode" = none := by
      intro s hs
      rw [hwritten s (by simp [hs]), if_neg (hlater s hs)]
    rw [get?_finalState, hsteps, lastWritten?_eq_some hvalue hnone]
    rfl

def colliding : Graph :=
  ⟨[⟨"s", .start, {}⟩, ⟨"m", .llm, {}⟩,
      ⟨"r", .reducer, Fields.empty.insert "reduceKey" (.string "llmOutput")⟩,
      ⟨"q", .reducer, Fields.empty.insert "reduceKey" (.string "_lastReducerNode")⟩,
      ⟨"e", .terminal, {}⟩],
    [⟨"1", "s", "m", none, none⟩, ⟨"2", "m", "r", none, none⟩, ⟨"3", "r", "q", none, none⟩,
      ⟨"4", "q", "e", none, none⟩]⟩

theorem colliding_lastWrites :
    (colliding.run 9 (Fields.empty.insert "note" .null)).finalState.get? "llmOutput" =
        some (.bool true) ∧
      (colliding.run 9 (Fields.empty.insert "note" .null)).finalState.get? "note" = some .null ∧
      (colliding.run 9 (Fields.empty.insert "note" .null)).finalState.get? "_lastReducerNode" =
        some (.string "q") := by
  obtain ⟨hlast, hnever, -, hreducer⟩ :=
    run_lastWrites colliding 9 (Fields.empty.insert "note" .null)
  have hsteps : (colliding.run 9 (Fields.empty.insert "note" .null)).steps.map
      (fun step => (step.nodeId, step.nodeType)) =
      [("s", .start), ("m", .llm), ("r", .reducer), ("q", .reducer), ("e", .terminal)] := by
    decide +kernel
  generalize (colliding.run 9 (Fields.empty.insert "note" .null)).steps = steps
    at hlast hnever hreducer hsteps
  rcases steps with _ | ⟨s, _ | ⟨m, _ | ⟨r, _ | ⟨q, _ | ⟨e, _ | _⟩⟩⟩⟩⟩ <;> simp at hsteps
  obtain ⟨⟨hs, -⟩, ⟨hm, -⟩, ⟨hr, -⟩, ⟨hq, hqtype⟩, he, hetype⟩ := hsteps
  have hwritten : colliding.written? r "llmOutput" = some (.bool true) := by
    rw [written?, hr]
    rfl
  have hlater : ∀ step ∈ [q, e], colliding.written? step "llmOutput" = none := by
    simp only [List.forall_mem_cons, written?, hq, he]
    exact ⟨rfl, rfl, by simp⟩
  have hnote : ∀ step ∈ [s, m, r, q, e], colliding.written? step "note" = none := by
    simp only [List.forall_mem_cons, written?, hs, hm, hr, hq, he]
    exact ⟨rfl, rfl, rfl, rfl, rfl, by simp⟩
  exact ⟨hlast _ _ [s, m] r [q, e] rfl hwritten hlater, hnever _ hnote,
    hq ▸ hreducer [s, m, r] q [e] rfl hqtype (by simp [hetype])⟩

end Graph

end WorkflowGraph
