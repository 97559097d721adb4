import WorkflowGraph.Proofs.Mentions
import WorkflowGraph.Proofs.Selection
import WorkflowGraph.Proofs.Walk
set_option autoImplicit false

namespace WorkflowGraph

namespace State

def AgreeOn (fields : List String) (s t : State) : Prop := ∀ key ∈ fields, s.get? key = t.get? key

def AgreeAt (paths : List String) (s t : State) : Prop :=
  ∀ path ∈ paths, s.getPath path = t.getPath path

variable {s t : State}

theorem pieces_eq_cons (path : List Char) :
    ∃ more, Text.pieces '.' path = Condition.firstSegment path :: more := by
  induction path with
  | nil => exact ⟨[], rfl⟩
  | cons c rest ih =>
    obtain ⟨more, hmore⟩ := ih
    unfold Condition.firstSegment at hmore ⊢
    by_cases hc : c = '.'
    · exact ⟨_, by rw [Text.pieces, if_pos hc, List.takeWhile_cons_of_neg (by simp [hc])]⟩
    · refine ⟨more, ?_⟩
      rw [Text.pieces, if_neg hc, hmore, List.takeWhile_cons_of_pos (by simp [hc])]

theorem getPath_congr {path : String}
    (h : s.get? (Condition.firstField path) = t.get? (Condition.firstField path)) :
    s.getPath path = t.getPath path := by
  obtain ⟨more, hmore⟩ := pieces_eq_cons path.toList
  unfold getPath Text.segments
  rw [hmore, List.map_cons, ← Condition.firstField, follow, follow, h]

end State

namespace Condition

variable {s t : State} {token condition : String}

/-- Every operand that starts with `state.` is one path. -/
def WellShaped (condition : String) : Prop :=
  ∀ token ∈ (parse condition).operands, ∀ path ∈ statePath? token.toList, IsPath path

instance : DecidablePred WellShaped := fun condition =>
  inferInstanceAs
    (Decidable (∀ token ∈ (parse condition).operands, ∀ path ∈ statePath? token.toList,
      IsPath path))

def ReadsAlike (s t : State) (token : String) : Prop :=
  ∀ path ∈ statePath? (Text.trim token.toList),
    s.getPath (String.ofList path) = t.getPath (String.ofList path)

theorem ReadsAlike.resolve? (h : ReadsAlike s t token) :
    Condition.resolve? token s = Condition.resolve? token t := by
  unfold Condition.resolve?
  dsimp only
  cases hpath : statePath? (Text.trim token.toList) with
  | none => rfl
  | some path => exact h path hpath

theorem ReadsAlike.operand (h : ReadsAlike s t token) :
    Condition.operand token s = Condition.operand token t := by
  unfold Condition.operand
  rw [h.resolve?]

theorem Expr.eval_congr {e : Expr} (h : ∀ token ∈ e.operands, ReadsAlike s t token) :
    e.eval s = e.eval t := by
  induction e with
  | always => rfl
  | compare left op right =>
    have hleft := (h left (by simp [operands])).operand
    have hright := (h right (by simp [operands])).operand
    rw [eval, eval, hleft, hright]
  | isIn needle haystack =>
    have hneedle := (h needle (by simp [operands])).operand
    have hhaystack := (h haystack (by simp [operands])).resolve?
    rw [eval, eval, hneedle, hhaystack]
  | and left right ihleft ihright =>
    rw [eval, eval, ihleft fun token htoken => h token (List.mem_append_left _ htoken),
      ihright fun token htoken => h token (List.mem_append_right _ htoken)]
  | or left right ihleft ihright =>
    rw [eval, eval, ihleft fun token htoken => h token (List.mem_append_left _ htoken),
      ihright fun token htoken => h token (List.mem_append_right _ htoken)]
  | not inner ih => rw [eval, eval, ih h]
  | unsupported text => rfl

theorem agreeAt_of_agreeOn (h : State.AgreeOn (topLevelFields condition) s t) :
    State.AgreeAt (statePaths condition) s t :=
  fun _ hpath => State.getPath_congr (h _ (firstField_mem_topLevelFields hpath))

/-- The path is found in the token alone, and the token stands between breaks of the condition. -/
theorem WellShaped.mem_statePaths (hshape : WellShaped condition)
    (htoken : token ∈ (parse condition).operands) {path : List Char}
    (hpath : statePath? token.toList = some path) : String.ofList path ∈ statePaths condition :=
  mem_statePaths_of_delimited (tokenOf_of_mem_operands condition.toList token htoken).2
    ((hshape token htoken path hpath).mem_statePaths hpath)

theorem readsAlike_of_agreeAt (hshape : WellShaped condition)
    (h : State.AgreeAt (statePaths condition) s t) :
    ∀ token ∈ (parse condition).operands, ReadsAlike s t token := by
  intro token htoken path hpath
  rw [(tokenOf_of_mem_operands condition.toList token htoken).1] at hpath
  exact h _ (hshape.mem_statePaths htoken hpath)

theorem evaluate_congr (hshape : WellShaped condition)
    (h : State.AgreeAt (statePaths condition) s t) :
    evaluate condition s = evaluate condition t :=
  Expr.eval_congr (readsAlike_of_agreeAt hshape h)

theorem parse_trimmed (condition : String) : parse (Text.trimmed condition) = parse condition := by
  unfold parse Text.trimmed
  rw [String.toList_ofList]
  exact parseChars_congr (Text.trim_trim _)

theorem evaluate_trimmed (condition : String) (s : State) :
    evaluate (Text.trimmed condition) s = evaluate condition s := by
  rw [evaluate, parse_trimmed, evaluate]

/-- What an edge says depends only on the values at the paths that its condition mentions. -/
theorem explain_congr {edge : Edge} (hshape : ∀ c ∈ edge.condition, WellShaped c)
    (h : ∀ c ∈ edge.condition, State.AgreeAt (statePaths c) s t) :
    explain edge s = explain edge t := by
  unfold explain
  cases hcondition : edge.condition with
  | none => rfl
  | some condition =>
    have hagree := h condition hcondition
    have hvalues : (statePaths condition).map (pathValue s) =
        (statePaths condition).map (pathValue t) := by
      refine List.map_congr_left fun path hpath => ?_
      rw [pathValue, pathValue, hagree path hpath]
    dsimp only
    rw [Option.getD_some, evaluate_trimmed, evaluate_trimmed, statePaths_trimmed, hvalues,
      evaluate_congr (hshape condition hcondition) hagree]

end Condition

theorem NodeType.get?_apply_congr {type : NodeType} {node : Node} {s t : State} {key : String}
    (h : s.get? key = t.get? key) :
    (type.apply node s).get? key = (type.apply node t).get? key := by
  unfold apply
  generalize type.writes node = entries
  induction entries generalizing s t with
  | nil => exact h
  | cons entry entries ih =>
    rw [List.foldl_cons, List.foldl_cons]
    apply ih
    rw [Fields.get?_insert, Fields.get?_insert, h]

def Step.withoutStates (step : Step) : Step :=
  { step with before := Fields.empty, after := Fields.empty }

namespace Graph

def conditions (g : Graph) : List String := g.edges.filterMap (·.condition)

def mentionedFields (g : Graph) : List String :=
  g.conditions.flatMap Condition.topLevelFields

variable {g : Graph} {s t : State} {node : Node}

theorem selection_congr (hshape : ∀ c ∈ g.conditions, Condition.WellShaped c)
    (h : State.AgreeOn g.mentionedFields s t) : node.selection g s = node.selection g t := by
  apply NodeType.select_congr
  intro e he
  have hcondition : ∀ c ∈ e.condition, c ∈ g.conditions := fun c hc =>
    List.mem_filterMap.2 ⟨e, (mem_outgoing.1 he).1, hc⟩
  refine Condition.explain_congr (fun c hc => hshape c (hcondition c hc)) fun c hc =>
    Condition.agreeAt_of_agreeOn fun key hkey => ?_
  exact NodeType.get?_apply_congr (h key (List.mem_flatMap.2 ⟨c, hcondition c hc, hkey⟩))

theorem withoutStates_step_congr (number : Nat) (h : node.selection g s = node.selection g t) :
    (node.step g number s).withoutStates = (node.step g number t).withoutStates := by
  unfold Step.withoutStates Node.step
  rw [h]

/-- Two walks from positions that differ only in fields that no condition mentions. -/
theorem walk_agrees (hshape : ∀ c ∈ g.conditions, Condition.WellShaped c)
    (budget left number : Nat) (p : Position) (t : State)
    (hagree : State.AgreeOn g.mentionedFields p.state t) :
    (g.walk budget left number p).1.map Step.withoutStates =
        (g.walk budget left number { p with state := t }).1.map Step.withoutStates ∧
      (g.walk budget left number p).2 = (g.walk budget left number { p with state := t }).2 ∧
      ∀ key, p.state.get? key = t.get? key →
        (Trace.ofWalk p.state (g.walk budget left number p)).finalState.get? key =
          (Trace.ofWalk t
            (g.walk budget left number { p with state := t })).finalState.get? key := by
  induction left, number, p using g.walk_induction budget generalizing t with
  | spent number p =>
    rw [walk_zero]
    exact ⟨rfl, rfl, fun key hkey => hkey⟩
  | revisited left number p hseen =>
    rw [walk_revisited (p := { p with state := t }) hseen]
    exact ⟨rfl, rfl, fun key hkey => hkey⟩
  | unknown left number p hnew hnode =>
    rw [walk_unknown (p := { p with state := t }) hnew hnode]
    exact ⟨rfl, rfl, fun key hkey => hkey⟩
  | stop left number p node hnew hnode hstop =>
    have hselection : node.selection g p.state = node.selection g t := selection_congr hshape hagree
    have hstep := withoutStates_step_congr number hselection
    rw [hselection] at hstop
    rw [walk_stop (p := { p with state := t }) hnew hnode hstop]
    refine ⟨congrArg (fun step => [step]) hstep, rfl, fun key hkey => ?_⟩
    exact NodeType.get?_apply_congr hkey
  | advance left number p node next steps failure hnew hnode hnext hwalk ih =>
    have hselection : node.selection g p.state = node.selection g t := selection_congr hshape hagree
    have hstep := withoutStates_step_congr number hselection
    rw [hselection] at hnext
    -- Both nodes write the same values, so the states after them agree where those before do.
    obtain ⟨hsteps, hfailure, hlast⟩ := ih (node.type.apply node t) fun key hkey =>
      NodeType.get?_apply_congr (hagree key hkey)
    rw [walk_next (p := { p with state := t }) hnew hnode hnext]
    refine ⟨congrArg₂ List.cons hstep hsteps, hfailure, fun key hkey => ?_⟩
    rw [Trace.finalState_ofWalk_cons, Trace.finalState_ofWalk_cons]
    exact hlast key (NodeType.get?_apply_congr hkey)

/-- Runs from two states that agree on the fields in the conditions of the edges take the same steps
and end alike, and their final states differ only where the two states do. -/
theorem run_agrees (g : Graph) (hshape : ∀ c ∈ g.conditions, Condition.WellShaped c)
    (budget : Nat) (s t : State) (hagree : State.AgreeOn g.mentionedFields s t) :
    (g.run budget s).steps.map Step.withoutStates = (g.run budget t).steps.map Step.withoutStates ∧
      (g.run budget s).terminated = (g.run budget t).terminated ∧
      (g.run budget s).error = (g.run budget t).error ∧
      ∀ key, s.get? key = t.get? key →
        (g.run budget s).finalState.get? key = (g.run budget t).finalState.get? key := by
  cases hstart : g.start? with
  | none =>
    rw [run_of_no_start hstart, run_of_no_start hstart]
    exact ⟨rfl, rfl, rfl, fun key hkey => hkey⟩
  | some start =>
    obtain ⟨hsteps, hfailure, hlast⟩ :=
      walk_agrees hshape budget budget 0 ⟨start.id, s, []⟩ t hagree
    rw [run_of_start hstart, run_of_start hstart]
    exact ⟨hsteps, congrArg Option.isNone hfailure,
      congrArg (Option.map Failure.diagnostic) hfailure, hlast⟩

def polling : Graph :=
  ⟨[⟨"s", .start, {}⟩, ⟨"t", .tool, {}⟩, ⟨"r", .router, {}⟩, ⟨"e", .terminal, {}⟩],
    [⟨"1", "s", "t", none, none⟩,
      ⟨"2", "t", "r", some "'admin' in state.user.roles || state.count > 3", none⟩,
      ⟨"3", "r", "e", some "state.user.name != 'root'", none⟩,
      ⟨"4", "r", "t", none, none⟩]⟩

def counting : State := Fields.empty.insert "count" (.number (.int 4))

theorem polling_agrees :
    (∀ c ∈ polling.conditions, Condition.WellShaped c) ∧
      State.AgreeOn polling.mentionedFields counting (counting.insert "note" .null) ∧
      (polling.run 9 counting).steps.map Step.withoutStates =
        (polling.run 9 (counting.insert "note" .null)).steps.map Step.withoutStates := by
  have hshape : ∀ c ∈ polling.conditions, Condition.WellShaped c := by decide +kernel
  have hfields : polling.mentionedFields = ["user", "count", "user"] := by decide +kernel
  have hagree :
      State.AgreeOn polling.mentionedFields counting (counting.insert "note" .null) := by
    rw [hfields]
    simp [State.AgreeOn]
  exact ⟨hshape, hagree, (run_agrees polling hshape 9 _ _ hagree).1⟩

end Graph

end WorkflowGraph
