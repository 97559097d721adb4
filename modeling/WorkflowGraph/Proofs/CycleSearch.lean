import WorkflowGraph.Graph.Validation
import Mathlib.Data.Finset.Card
import Mathlib.Data.List.Chain
import Mathlib.Logic.Relation
set_option autoImplicit false

/-!
# The search for cycles

`searchCycle_induction` is the induction over a search in depth: it has one case for each thing that
a search can do with a target, and the bound on the levels is no part of it, since each level takes
up an id that is a target and was not visited. By it, a search that ends without a cycle keeps every
property that passes from the targets of an id to the id.
-/
namespace WorkflowGraph.Graph

def Leads (g : Graph) (a b : String) : Prop := b ∈ g.targets a

def Grounded (g : Graph) (id : String) : Prop := Acc (fun b a => g.Leads a b) id

variable {g : Graph} {node target : String} {path visited : List String} {found : CycleSearch}
  {levels : Nat}

theorem leads_iff {a b : String} : g.Leads a b ↔ ∃ e ∈ g.edges, e.source = a ∧ e.target = b := by
  simp [Leads, targets, and_assoc]

theorem Grounded.not_transGen {id : String} (h : g.Grounded id) :
    ¬ Relation.TransGen g.Leads id id := by
  induction h with
  | intro id _ ih =>
    intro hcycle
    obtain ⟨next, hnext, hback⟩ := Relation.TransGen.head'_iff.1 hcycle
    exact ih next hnext (Relation.TransGen.tail' hback hnext)

theorem Grounded.nodup {id : String} {ids : List String} (h : g.Grounded id)
    (hway : (id :: ids).IsChain g.Leads) : (id :: ids).Nodup := by
  induction ids generalizing id with
  | nil => simp
  | cons next ids ih =>
    obtain ⟨hnext, hrest⟩ := List.isChain_cons_cons.1 hway
    refine List.nodup_cons.2 ⟨fun hmem => ?_, ih (h.inv hnext) hrest⟩
    have hlong : (id :: next :: ids).IsChain (Relation.TransGen g.Leads) :=
      hway.imp fun _ _ hab => Relation.TransGen.single hab
    have hall := List.pairwise_cons.1 (List.isChain_iff_pairwise.1 hlong)
    exact h.not_transGen (hall.1 id hmem)

/-- What a search with a given path does with one target. -/
def visit (g : Graph) (levels : Nat) (path : List String) (found : CycleSearch)
    (target : String) : CycleSearch :=
  if found.cycle.isSome then found
  else if target ∈ path then
    ⟨found.visited, some (target :: (path.takeWhile (· ≠ target)).reverse ++ [target])⟩
  else if target ∈ found.visited then found
  else g.searchCycle levels target path found.visited

theorem searchCycle_succ (g : Graph) (levels : Nat) (node : String) (path visited : List String) :
    g.searchCycle (levels + 1) node path visited =
      (g.targets node).foldl (g.visit levels (node :: path)) ⟨node :: visited, none⟩ := rfl

theorem foldl_induction {α β : Type} {motive : List α → β → Prop} (step : β → α → β) (first : β)
    (xs : List α) (start : motive [] first)
    (next : ∀ before x acc, x ∈ xs → motive before acc → motive (before ++ [x]) (step acc x)) :
    motive xs (xs.foldl step first) := by
  induction xs using List.reverseRecOn with
  | nil => exact start
  | append_singleton xs x ih =>
    rw [List.foldl_append]
    refine next xs x _ (by simp) (ih fun before y acc hy h => ?_)
    exact next before y acc (List.mem_append_left _ hy) h

def unseen (g : Graph) (visited : List String) : Finset String :=
  (g.edges.map (·.target)).toFinset \ visited.toFinset

theorem card_unseen_le (g : Graph) (visited : List String) :
    (g.unseen visited).card ≤ g.edges.length := by
  calc
    _ ≤ (g.edges.map (·.target)).toFinset.card := Finset.card_le_card Finset.sdiff_subset
    _ ≤ (g.edges.map (·.target)).length := List.toFinset_card_le _
    _ = g.edges.length := List.length_map _

theorem card_unseen_lt (g : Graph) (visited : List String) :
    (g.unseen visited).card < g.edges.length + 1 :=
  Nat.lt_succ_of_le (g.card_unseen_le visited)

theorem card_unseen_cons_lt {seen : List String} (htarget : target ∈ g.targets node)
    (hnew : target ∉ seen) (hsub : visited ⊆ seen) :
    (g.unseen (target :: seen)).card < (g.unseen visited).card := by
  obtain ⟨e, he, -, rfl⟩ := leads_iff.1 htarget
  apply Finset.card_lt_card
  refine Finset.ssubset_iff_of_subset ?_ |>.2 ⟨e.target, ?_, ?_⟩
  · intro id hid
    simp only [unseen, Finset.mem_sdiff, List.mem_toFinset, List.mem_cons, not_or] at hid ⊢
    exact ⟨hid.1, fun hmem => hid.2.2 (hsub hmem)⟩
  · simp only [unseen, Finset.mem_sdiff, List.mem_toFinset]
    exact ⟨List.mem_map_of_mem he, fun hmem => hnew (hsub hmem)⟩
  · simp [unseen]

/-- A search visits what was visited before and its own node, and it has every property that its
steps keep. The lists of targets are those gone through so far. -/
theorem searchCycle_induction (g : Graph)
    {motive : (node : String) → (path visited before : List String) → CycleSearch → Prop}
    (start : ∀ node path visited, motive node path visited [] ⟨node :: visited, none⟩)
    (ended : ∀ node path visited before target found, found.cycle.isSome →
      motive node path visited before found → motive node path visited (before ++ [target]) found)
    (closing : ∀ node path visited before target found, found.cycle = none →
      g.Leads node target → target ∈ node :: path → motive node path visited before found →
      motive node path visited (before ++ [target]) ⟨found.visited,
        some (target :: ((node :: path).takeWhile (· ≠ target)).reverse ++ [target])⟩)
    (known : ∀ node path visited before target found, found.cycle = none →
      target ∉ node :: path → target ∈ found.visited → motive node path visited before found →
      motive node path visited (before ++ [target]) found)
    (nested : ∀ node path visited before target found result, found.cycle = none →
      g.Leads node target → target ∉ node :: path → target ∉ found.visited →
      target :: found.visited ⊆ result.visited → motive node path visited before found →
      motive target (node :: path) found.visited (g.targets target) result →
      motive node path visited (before ++ [target]) result)
    (path : List String) (hlevels : (g.unseen (node :: visited)).card < levels) :
    node :: visited ⊆ (g.searchCycle levels node path visited).visited ∧
      motive node path visited (g.targets node) (g.searchCycle levels node path visited) := by
  induction levels generalizing node path visited with
  | zero => exact absurd hlevels (Nat.not_lt_zero _)
  | succ levels ih =>
    rw [searchCycle_succ]
    refine foldl_induction
      (motive := fun before found =>
        node :: visited ⊆ found.visited ∧ motive node path visited before found)
      _ _ _ ⟨List.Subset.refl _, start node path visited⟩ ?_
    intro before target found htarget ⟨hsub, hmotive⟩
    unfold visit
    split
    · exact ⟨hsub, ended _ _ _ _ _ _ ‹_› hmotive⟩
    · have hnone : found.cycle = none := by simpa using ‹¬ found.cycle.isSome = true›
      split
      · exact ⟨hsub, closing _ _ _ _ _ _ hnone htarget ‹_› hmotive⟩
      · split
        · exact ⟨hsub, known _ _ _ _ _ _ hnone ‹_› ‹_› hmotive⟩
        · have hfewer := card_unseen_cons_lt htarget ‹target ∉ found.visited› hsub
          obtain ⟨hmore, hresult⟩ := @ih target found.visited (node :: path) (by omega)
          have hall : node :: visited ⊆ _ := fun _ hid => hmore (List.mem_cons_of_mem _ (hsub hid))
          exact ⟨hall, nested _ _ _ _ _ _ _ hnone htarget ‹_› ‹_› hmore hmotive hresult⟩

theorem subset_visited_searchCycle (path : List String)
    (hlevels : (g.unseen (node :: visited)).card < levels) :
    node :: visited ⊆ (g.searchCycle levels node path visited).visited := by
  refine (g.searchCycle_induction (motive := fun _ _ _ _ _ => True) ?_ ?_ ?_ ?_ ?_ path hlevels).1
  all_goals intros; trivial

/-- Of a search without a cycle: if the ids visited before and not on the path have a property, then
so do those visited by then, and so do the targets gone through. -/
def Keeps (P : String → Prop) (node : String) (path visited before : List String)
    (found : CycleSearch) : Prop :=
  (∀ id ∈ visited, id ∉ path → P id) → found.cycle = none →
    (∀ id ∈ found.visited, id ∉ node :: path → P id) ∧ ∀ id ∈ before, P id

theorem keeps_searchCycle {P : String → Prop} (hP : ∀ a, (∀ b, g.Leads a b → P b) → P a)
    (path : List String) (hlevels : (g.unseen (node :: visited)).card < levels) :
    Keeps P node path visited (g.targets node) (g.searchCycle levels node path visited) := by
  refine (g.searchCycle_induction (motive := Keeps P)
    ?start ?ended ?closing ?known ?nested path hlevels).2
  case start =>
    intro node path visited hvisited _
    refine ⟨fun id hid hpath => ?_, by simp⟩
    simp only [List.mem_cons, not_or] at hid hpath
    exact hvisited id (hid.resolve_left hpath.1) hpath.2
  case ended =>
    intro node path visited before target found hsome _ _ hnone
    simp [hnone] at hsome
  case closing =>
    intro node path visited before target found _ _ _ _ _ hsome
    simp at hsome
  case known =>
    intro node path visited before target found _ hpath hseen ih hvisited hnone
    obtain ⟨hall, hbefore⟩ := ih hvisited hnone
    refine ⟨hall, fun id hid => ?_⟩
    rcases List.mem_append.1 hid with hid | hid
    · exact hbefore id hid
    · rw [List.mem_singleton.1 hid]
      exact hall target hseen hpath
  case nested =>
    intro node path visited before target found result hfound _ hpath _ hmore ih hresult
      hvisited hnone
    obtain ⟨hall, hbefore⟩ := ih hvisited hfound
    obtain ⟨hinner, htargets⟩ := hresult hall hnone
    -- all that the target leads to has the property, hence so has the target
    have htarget : P target := hP target htargets
    refine ⟨fun id hid hnew => ?_, fun id hid => ?_⟩
    · by_cases heq : id = target
      · exact heq ▸ htarget
      · exact hinner id hid (by rw [List.mem_cons, not_or]; exact ⟨heq, hnew⟩)
    · rcases List.mem_append.1 hid with hid | hid
      · exact hbefore id hid
      · exact List.mem_singleton.1 hid ▸ htarget

/-- A property that an id has if all ids have it to which it leads is kept by a search that finds
no cycle. -/
theorem forall_visited_searchCycle {P : String → Prop}
    (hP : ∀ a, (∀ b, g.Leads a b → P b) → P a)
    (hlevels : (g.unseen (node :: visited)).card < levels) (hvisited : ∀ id ∈ visited, P id)
    (hnone : (g.searchCycle levels node [] visited).cycle = none) :
    ∀ id ∈ (g.searchCycle levels node [] visited).visited, P id := by
  obtain ⟨hall, htargets⟩ :=
    keeps_searchCycle hP [] hlevels (fun id hid _ => hvisited id hid) hnone
  intro id hid
  by_cases heq : id = node
  · exact heq ▸ hP node htargets
  · exact hall id hid (by simpa using heq)

/-- The searches from the nodes in order of declaration, each with what was visited before it. -/
theorem cycles_induction (g : Graph)
    {motive : (before : List Node) → (visited : List String) → List (List String) → Prop}
    (start : motive [] [] [])
    (known : ∀ before n visited found, n ∈ g.nodes → n.id ∈ visited →
      motive before visited found → motive (before ++ [n]) visited found)
    (search : ∀ before n visited found, n ∈ g.nodes → n.id ∉ visited →
      motive before visited found →
      motive (before ++ [n]) (g.searchCycle (g.edges.length + 1) n.id [] visited).visited
        (found ++ (g.searchCycle (g.edges.length + 1) n.id [] visited).cycle.toList)) :
    ∃ visited, motive g.nodes visited g.cycles := by
  refine ⟨_, foldl_induction
    (motive := fun before (acc : List String × List (List String)) => motive before acc.1 acc.2)
    _ ([], []) g.nodes start ?_⟩
  rintro before n ⟨visited, found⟩ hn hmotive
  by_cases hseen : n.id ∈ visited
  · simpa only [if_pos hseen] using known before n visited found hn hseen hmotive
  · simpa only [if_neg hseen] using search before n visited found hn hseen hmotive

end WorkflowGraph.Graph
