import WorkflowGraph.Proofs.Explanations
set_option autoImplicit false

namespace WorkflowGraph

def Edge.holds (e : Edge) (s : State) : Bool := Condition.evaluate (Condition.text e) s

theorem Edge.fires_eq_holds (e : Edge) (s : State) : e.fires s = e.holds s :=
  Condition.fired_explain e s

/-- Each of the edges is in one of the lists, once, and both lists keep the order of the edges. -/
structure Divided (edges fired blocked : List Edge) : Prop where
  fired_sublist : fired.Sublist edges
  blocked_sublist : blocked.Sublist edges
  perm : (fired ++ blocked).Perm edges

theorem divided_filter (p : Edge → Bool) (edges : List Edge) :
    Divided edges (edges.filter p) (edges.filter (!p ·)) :=
  ⟨List.filter_sublist, List.filter_sublist, List.filter_append_perm p edges⟩

theorem divided_find? (p : Edge → Bool) (edges : List Edge) :
    Divided edges (edges.find? p).toList (edges.eraseP p) := by
  refine ⟨?_, List.eraseP_sublist, ?_⟩
  · cases hfind : edges.find? p with
    | none => exact List.nil_sublist edges
    | some e => exact List.singleton_sublist.2 (List.mem_of_find?_eq_some hfind)
  · induction edges with
    | nil => exact .nil
    | cons e edges ih =>
      cases he : p e with
      | true => rw [List.find?_cons_of_pos he, List.eraseP_cons_of_pos he]; exact .refl _
      | false =>
        rw [List.find?_cons_of_neg (by simp [he]), List.eraseP_cons_of_neg (by simp [he])]
        exact List.perm_middle.trans (ih.cons e)

namespace NodeType

/-- An end node goes nowhere and lists no edges. Every other node goes to the target of the first
edge whose condition holds, and divides its edges into those that fire and those that are blocked.
-/
theorem select_divides (type : NodeType) (node : Node) (edges : List Edge) (s : State) :
    (type = .terminal → (type.select node edges s).next = none ∧
      (type.select node edges s).fired = [] ∧ (type.select node edges s).blocked = []) ∧
    (type ≠ .terminal →
      (type.select node edges s).next = (edges.find? (·.holds s)).map (·.target) ∧
      ∃ fired blocked, Divided edges fired blocked ∧
        (type.select node edges s).fired = fired.map (·.id) ∧
        (type.select node edges s).blocked = blocked.map (·.id) ∧
        (type = .loopGuard →
          fired = edges.filter (·.holds s) ∧ blocked = edges.filter (!·.holds s)) ∧
        (type ≠ .loopGuard →
          fired = (edges.find? (·.holds s)).toList ∧ blocked = edges.eraseP (·.holds s))) ∧
    ((type.select node edges s).fired ≠ [] ↔ (type.select node edges s).next.isSome) := by
  refine ⟨fun htype => ?_, fun htype => ?_, ?_⟩
  · subst htype
    exact ⟨rfl, rfl, rfl⟩
  · by_cases hguard : type = .loopGuard
    · subst hguard
      obtain ⟨_, hselect⟩ := select_loopGuard node edges s
      simp only [Edge.fires_eq_holds] at hselect
      rw [hselect]
      exact ⟨rfl, _, _, divided_filter (·.holds s) edges, rfl, rfl, fun _ => ⟨rfl, rfl⟩,
        fun hne => absurd rfl hne⟩
    · obtain ⟨_, hselect⟩ := select_first htype hguard node edges s
      simp only [Edge.fires_eq_holds] at hselect
      rw [hselect]
      exact ⟨rfl, _, _, divided_find? (·.holds s) edges, rfl, rfl,
        fun heq => absurd heq hguard, fun _ => ⟨rfl, rfl⟩⟩
  · rw [Ne, fired_select_eq_nil_iff, Option.isSome_iff_ne_none]

def fork : List Edge :=
  [⟨"1", "r", "a", some "state.n > 1", none⟩, ⟨"2", "r", "b", none, none⟩,
    ⟨"3", "r", "c", some " ", none⟩, ⟨"2", "r", "d", some "state.n == 1", none⟩]

theorem fork_divides :
    (select .terminal ⟨"r", .terminal, {}⟩ fork Fields.empty).blocked = [] ∧
      (select .router ⟨"r", .router, {}⟩ fork Fields.empty).next = some "b" ∧
      (select .router ⟨"r", .router, {}⟩ fork Fields.empty).blocked = ["1", "3", "2"] ∧
      (select .loopGuard ⟨"r", .loopGuard, {}⟩ fork Fields.empty).fired = ["2", "3"] ∧
      (select .loopGuard ⟨"r", .loopGuard, {}⟩ fork Fields.empty).blocked = ["1", "2"] := by
  have hend := (select_divides .terminal ⟨"r", .terminal, {}⟩ fork Fields.empty).1 rfl
  obtain ⟨hnext, _, _, -, -, hrest, -, hfirst⟩ :=
    (select_divides .router ⟨"r", .router, {}⟩ fork Fields.empty).2.1 (by decide)
  obtain ⟨-, _, _, -, hfired, hblocked, hall, -⟩ :=
    (select_divides .loopGuard ⟨"r", .loopGuard, {}⟩ fork Fields.empty).2.1 (by decide)
  rw [(hfirst (by decide)).2] at hrest
  rw [(hall rfl).1] at hfired
  rw [(hall rfl).2] at hblocked
  exact ⟨hend.2.2, hnext.trans (by decide +kernel), hrest.trans (by decide +kernel),
    hfired.trans (by decide +kernel), hblocked.trans (by decide +kernel)⟩

end NodeType

end WorkflowGraph
