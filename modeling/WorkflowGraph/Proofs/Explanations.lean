import WorkflowGraph.Proofs.Dependence
import WorkflowGraph.Proofs.Spelling
set_option autoImplicit false

namespace WorkflowGraph.Condition

def shown (s : State) (path : String) : String :=
  ((s.getPath path).map Json.render).getD "undefined"

def listing (s : State) (paths : List String) : String :=
  if paths = [] then ""
  else " [" ++ ", ".intercalate (paths.map fun path => "state." ++ path ++ " = " ++ shown s path)
    ++ "]"

def text (edge : Edge) : String := edge.condition.getD ""

/-- The explanation of an edge with a condition that is not blank. -/
def account (edge : Edge) (fired : Bool) (s : State) : String :=
  "Edge '" ++ edge.id ++ "' " ++ (if fired then "fired" else "blocked") ++ ": "
    ++ String.ofList (Text.trim (text edge).toList) ++ listing s (statePaths (text edge))

variable {edge : Edge} {condition : String}

theorem pathValue_eq (s : State) (path : String) :
    pathValue s path = "state." ++ path ++ " = " ++ shown s path := by
  unfold pathValue shown
  cases s.getPath path <;> rfl

theorem listing_eq (s : State) (paths : List String) :
    listing s paths =
      if (paths.map (pathValue s)).isEmpty then ""
      else " [" ++ ", ".intercalate (paths.map (pathValue s)) ++ "]" := by
  rw [listing, List.map_congr_left fun path _ => (pathValue_eq s path).symm]
  simp only [List.isEmpty_map, List.isEmpty_iff]

theorem infix_intercalate {sep part : String} {parts : List String} (h : part ∈ parts) :
    part.toList <:+: (sep.intercalate parts).toList := by
  induction parts with
  | nil => exact absurd h List.not_mem_nil
  | cons first rest ih =>
    rcases List.mem_cons.1 h with rfl | h
    · cases rest with
      | nil => exact String.intercalate_singleton ▸ List.infix_rfl
      | cons next rest =>
        rw [String.intercalate_cons_cons, String.append_assoc, String.toList_append]
        exact (List.prefix_append _ _).isInfix
    · rw [String.intercalate_cons_of_ne_nil (List.ne_nil_of_mem h), String.toList_append]
      exact (ih h).trans (List.suffix_append _ _).isInfix

theorem entry_infix_listing {paths : List String} {path : String} (h : path ∈ paths) (s : State) :
    ("state." ++ path ++ " = " ++ shown s path).toList <:+: (listing s paths).toList := by
  let entries := paths.map fun path => "state." ++ path ++ " = " ++ shown s path
  have hlisting : (listing s paths).toList =
      " [".toList ++ (", ".intercalate entries).toList ++ "]".toList := by
    rw [listing, if_neg (List.ne_nil_of_mem h), String.toList_append, String.toList_append]
  have hentry : "state." ++ path ++ " = " ++ shown s path ∈ entries :=
    List.mem_map.2 ⟨path, h, rfl⟩
  rw [hlisting]
  exact (infix_intercalate hentry).trans (List.infix_append _ _ _)

theorem trimmed_eq_empty_iff :
    Text.trimmed condition = "" ↔ ∀ c ∈ condition.toList, Text.isBlank c := by
  rw [← Text.trim_eq_nil_iff, Text.trimmed, String.ofList_eq_empty_iff]

theorem explain_of_blank (h : ∀ c ∈ (text edge).toList, Text.isBlank c) (s : State) :
    explain edge s = ⟨true, "Edge '" ++ edge.id ++ "' has no condition and always fires"⟩ := by
  have hempty : Text.trimmed (edge.condition.getD "") = "" := trimmed_eq_empty_iff.2 h
  rw [explain, if_pos hempty]

theorem explain_of_visible (h : Text.Visible (text edge).toList) (s : State) :
    explain edge s =
      ⟨evaluate (text edge) s, account edge (evaluate (text edge) s) s⟩ := by
  have hne : Text.trimmed (edge.condition.getD "") ≠ "" := fun hempty =>
    Text.not_visible_iff.2 (trimmed_eq_empty_iff.1 hempty) h
  rw [explain, if_neg hne, evaluate_trimmed, statePaths_trimmed, account, listing_eq]
  rfl

theorem evaluate_of_blank (h : ∀ c ∈ condition.toList, Text.isBlank c) (s : State) :
    evaluate condition s = true := by
  rw [evaluate, parse, parseChars_eq_always_iff.2 h, Expr.eval]

/-- An edge fires if its condition holds. -/
theorem fired_explain (edge : Edge) (s : State) :
    (explain edge s).fired = evaluate (text edge) s := by
  by_cases hvisible : Text.Visible (text edge).toList
  · rw [explain_of_visible hvisible]
  · have hblank := Text.not_visible_iff.1 hvisible
    rw [explain_of_blank hblank, evaluate_of_blank hblank]

theorem visible_of_mem_operands {token : String} (h : token ∈ (parse condition).operands) :
    Text.Visible condition.toList := by
  by_contra hblank
  rw [parse, parseChars_eq_always_iff.2 (Text.not_visible_iff.1 hblank)] at h
  exact List.not_mem_nil h

/-- States with the same values at the paths in the condition of an edge give the same decision and
the same explanation, and the explanation lists each operand that starts with `state.` with the
value at its path. -/
theorem explain_accounts (hshape : WellShaped (text edge)) :
    (∀ s t, State.AgreeAt (statePaths (text edge)) s t → explain edge s = explain edge t) ∧
    ∀ path, "state." ++ path ∈ (parse (text edge)).operands →
      path ∈ statePaths (text edge) ∧
        ∀ s, (explain edge s).explanation = account edge (explain edge s).fired s ∧
          ("state." ++ path ++ " = " ++ shown s path).toList <:+:
            (explain edge s).explanation.toList := by
  refine ⟨fun s t hagree => explain_congr (fun c hc => ?_) fun c hc => ?_, fun path htoken => ?_⟩
  · rwa [text, hc] at hshape
  · rwa [text, hc] at hagree
  · have hchars : statePath? ("state." ++ path).toList = some path.toList :=
      String.toList_append ▸ rfl
    have hlisted : path ∈ statePaths (text edge) := by
      simpa using hshape.mem_statePaths htoken hchars
    refine ⟨hlisted, fun s => ?_⟩
    rw [explain_of_visible (visible_of_mem_operands htoken)]
    refine ⟨rfl, (entry_infix_listing hlisted s).trans ?_⟩
    rw [account, String.toList_append]
    exact (List.suffix_append _ _).isInfix

def deep : String := "'x' in state.log.state.tags && !state.$n > 2"

def deepEdge : Edge := ⟨"e", "a", "b", some deep, none⟩

def tagged (level : Json) : State :=
  Fields.ofList [("log", Json.ofMembers
    [("level", level), ("state", Json.ofMembers [("tags", .array [.string "x"])])])]

theorem deepEdge_accounts :
    explain deepEdge (tagged .null) = explain deepEdge (tagged (.bool true)) ∧
      "log.state.tags" ∈ statePaths deep ∧
      (explain deepEdge (tagged .null)).explanation =
        "Edge 'e' fired: 'x' in state.log.state.tags && !state.$n > 2 " ++
          "[state.log.state.tags = [\"x\"], state.$n = undefined]" ∧
      "state.log.state.tags = [\"x\"]".toList <:+:
        (explain deepEdge (tagged .null)).explanation.toList := by
  have hshape : WellShaped deep := by decide +kernel
  have hpaths : statePaths deep = ["log.state.tags", "$n"] := by decide +kernel
  have hagree : State.AgreeAt (statePaths deep) (tagged .null) (tagged (.bool true)) := by
    rw [hpaths]
    simp only [State.AgreeAt, List.forall_mem_cons]
    exact ⟨rfl, rfl, by simp⟩
  have htoken : "state." ++ "log.state.tags" ∈ (parse deep).operands := by decide +kernel
  have hfired : (explain deepEdge (tagged .null)).fired = true := by decide +kernel
  obtain ⟨hsame, hlists⟩ := @explain_accounts deepEdge hshape
  obtain ⟨hpath, haccount⟩ := hlists "log.state.tags" htoken
  obtain ⟨hexplanation, hinfix⟩ := haccount (tagged .null)
  rw [hfired] at hexplanation
  refine ⟨hsame _ _ hagree, hpath, hexplanation.trans ?_, ?_⟩
  · decide +kernel
  · exact hinfix

end WorkflowGraph.Condition
