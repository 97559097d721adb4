import WorkflowGraph.Proofs.Selection
set_option autoImplicit false

namespace WorkflowGraph

/-- `sorted` has the elements of `xs` in ascending order of their keys, those with the same key in
the order that they have in `xs`. -/
structure StablySorted {α : Type} (key : α → String) (xs sorted : List α) : Prop where
  ascending : sorted.Pairwise fun a b => key a ≤ key b
  stable : ∀ k, sorted.filter (key · = k) = xs.filter (key · = k)

theorem stablySorted_mergeSort {α : Type} (key : α → String) (xs : List α) :
    StablySorted key xs (xs.mergeSort fun a b => key a ≤ key b) := by
  let le : α → α → Bool := fun a b => key a ≤ key b
  have htrans : ∀ a b c, le a b → le b c → le a c := by
    intro a b c hab hbc
    exact decide_eq_true (String.le_trans (of_decide_eq_true hab) (of_decide_eq_true hbc))
  have htotal : ∀ a b, le a b || le b a := by
    intro a b
    simpa [le] using String.le_total (key a) (key b)
  refine ⟨(List.pairwise_mergeSort htrans htotal xs).imp of_decide_eq_true, fun k => ?_⟩
  -- The elements with key `k` are ascending as they stand, so sorting keeps them as a sublist.
  have hequal : (xs.filter (key · = k)).Pairwise (le · ·) := by
    refine List.pairwise_of_forall_mem_list fun a ha b hb => ?_
    have hka : key a = k := by simpa using (List.mem_filter.1 ha).2
    have hkb : key b = k := by simpa using (List.mem_filter.1 hb).2
    exact decide_eq_true (hka.trans hkb.symm ▸ String.le_refl _)
  have hsub := (List.sublist_mergeSort htrans htotal hequal List.filter_sublist).filter (key · = k)
  have hlength := ((List.mergeSort_perm xs le).filter (key · = k)).length_eq
  simp only [List.filter_filter, Bool.and_self] at hsub
  exact (hsub.eq_of_length hlength.symm).symm

namespace StablySorted

variable {α : Type} {key : α → String} {xs ys zs : List α}

theorem mem_iff (h : StablySorted key xs ys) {a : α} : a ∈ ys ↔ a ∈ xs := by
  have hfilter := congrArg (a ∈ ·) (h.stable (key a))
  simpa using hfilter

theorem tail {a : α} (h : StablySorted key (a :: xs) (a :: ys)) : StablySorted key xs ys := by
  refine ⟨h.ascending.of_cons, fun k => ?_⟩
  have hk := h.stable k
  simp only [List.filter_cons] at hk
  split at hk
  · exact (List.cons.inj hk).2
  · exact hk

theorem eq_of_ascending (h : StablySorted key xs ys)
    (hxs : xs.Pairwise fun a b => key a ≤ key b) : ys = xs := by
  induction ys generalizing xs with
  | nil => exact (List.eq_nil_iff_forall_not_mem.2 fun a ha => by simpa using h.mem_iff.2 ha).symm
  | cons a ys ih =>
    cases xs with
    | nil => exact absurd (h.mem_iff.1 List.mem_cons_self) List.not_mem_nil
    | cons b xs =>
      -- Each head is in the other list, so neither has the smaller key.
      have hab : key a ≤ key b := by
        rcases List.mem_cons.1 (h.mem_iff.2 (List.mem_cons_self (a := b))) with rfl | hb
        · exact String.le_refl _
        · exact (List.pairwise_cons.1 h.ascending).1 b hb
      have hba : key b ≤ key a := by
        rcases List.mem_cons.1 (h.mem_iff.1 (List.mem_cons_self (a := a))) with rfl | ha
        · exact String.le_refl _
        · exact (List.pairwise_cons.1 hxs).1 a ha
      obtain rfl : a = b := by
        have hheads := h.stable (key a)
        simp only [List.filter_cons, String.le_antisymm hab hba, decide_true, if_true] at hheads
        exact (List.cons.inj hheads).1
      rw [ih h.tail hxs.of_cons]

/-- There is only one way to sort stably. -/
theorem unique (hys : StablySorted key xs ys) (hzs : StablySorted key xs zs) : ys = zs :=
  eq_of_ascending ⟨hys.ascending, fun k => (hys.stable k).trans (hzs.stable k).symm⟩ hzs.ascending

end StablySorted

namespace Graph

variable {g : Graph} {node : Node}

def IsLastDeclared (g : Graph) (node : Node) : Prop :=
  ∃ before after, g.nodes = before ++ node :: after ∧ ∀ m ∈ after, m.id ≠ node.id

def IsFirstStart (g : Graph) (node : Node) : Prop :=
  node.type = .start ∧
    ∃ before after, g.nodes = before ++ node :: after ∧ ∀ m ∈ before, m.type ≠ .start

theorem node?_eq_some_iff {id : String} :
    g.node? id = some node ↔ g.IsLastDeclared node ∧ node.id = id := by
  simp only [node?, List.find?_eq_some_iff_append, decide_eq_true_eq, Bool.not_eq_true',
    decide_eq_false_iff_not]
  constructor
  · rintro ⟨hid, after, before, hnodes, hafter⟩
    refine ⟨⟨before.reverse, after.reverse, ?_, fun m hm => ?_⟩, hid⟩
    · simpa using congrArg List.reverse hnodes
    · exact hid.symm ▸ hafter m (List.mem_reverse.1 hm)
  · rintro ⟨⟨before, after, hnodes, hafter⟩, rfl⟩
    exact ⟨rfl, after.reverse, before.reverse, by simp [hnodes], by simpa using hafter⟩

theorem start?_eq_some_iff : g.start? = some node ↔ g.IsFirstStart node := by
  simp only [start?, ofType, List.head?_filter, List.find?_eq_some_iff_append, decide_eq_true_eq,
    Bool.not_eq_true', decide_eq_false_iff_not, IsFirstStart, ne_eq]

def AreOutgoing (g : Graph) (id : String) (edges : List Edge) : Prop :=
  StablySorted (·.id) (g.edges.filter (·.source = id)) edges

theorem areOutgoing_iff {id : String} {edges : List Edge} :
    g.AreOutgoing id edges ↔ edges = g.outgoing id := by
  have houtgoing : g.AreOutgoing id (g.outgoing id) := stablySorted_mergeSort _ _
  constructor
  · intro h
    exact h.unique houtgoing
  · rintro rfl
    exact houtgoing

end Graph

end WorkflowGraph
