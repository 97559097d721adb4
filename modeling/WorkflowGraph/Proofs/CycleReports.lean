import WorkflowGraph.Proofs.CycleSearch
import WorkflowGraph.Proofs.Findings
set_option autoImplicit false

namespace WorkflowGraph

theorem Finding.kind_eq_cycle_iff (f : Finding) :
    f.diagnostic.kind = .cycle ↔ f.check = .cycles := by
  cases f <;> simp [diagnostic, check]

namespace Graph

structure IsCycle (g : Graph) (ids : List String) : Prop where
  length : 2 ≤ ids.length
  closed : ids.head? = ids.getLast?
  simple : ids.dropLast.Nodup
  edges : ids.IsChain fun a b => ∃ e ∈ g.edges, e.source = a ∧ e.target = b

/-- How a search comes to a node: along a path without repetition that it has visited, given from
its end. -/
structure IsTrail (g : Graph) (node : String) (path visited : List String) : Prop where
  edges : (node :: path).IsChain fun a b => g.Leads b a
  simple : (node :: path).Nodup
  visited : path ⊆ visited

variable {g : Graph} {node target : String} {path visited : List String} {levels : Nat}
  {schema : Option Schema}

theorem isTrail_nil (g : Graph) (node : String) (visited : List String) :
    g.IsTrail node [] visited :=
  ⟨List.isChain_singleton node, List.nodup_singleton node, List.nil_subset visited⟩

theorem IsTrail.cons {seen : List String} (h : g.IsTrail node path visited)
    (htarget : g.Leads node target) (hpath : target ∉ node :: path)
    (hseen : node :: visited ⊆ seen) : g.IsTrail target (node :: path) seen where
  edges := List.isChain_cons_cons.2 ⟨htarget, h.edges⟩
  simple := List.nodup_cons.2 ⟨hpath, h.simple⟩
  visited := List.cons_subset.2 ⟨hseen List.mem_cons_self,
    fun _ hid => hseen (List.mem_cons_of_mem _ (h.visited hid))⟩

theorem mem_path_of_mem_report {id : String} (htarget : target ∈ path)
    (hid : id ∈ target :: (path.takeWhile (· ≠ target)).reverse ++ [target]) : id ∈ path := by
  simp only [List.cons_append, List.mem_cons, List.mem_append, List.mem_reverse, List.not_mem_nil,
    or_false] at hid
  rcases hid with rfl | hid | rfl
  · exact htarget
  · exact (List.takeWhile_prefix _).subset hid
  · exact htarget

/-- A target on the path closes a cycle. -/
theorem IsTrail.isCycle (h : g.IsTrail node path visited) (htarget : g.Leads node target)
    (hpath : target ∈ node :: path) :
    g.IsCycle (target :: ((node :: path).takeWhile (· ≠ target)).reverse ++ [target]) := by
  obtain ⟨back, rest, hsplit, hback⟩ := List.eq_append_cons_of_mem hpath
  have htake : (node :: path).takeWhile (· ≠ target) = back := by
    rw [hsplit, List.takeWhile_append_of_pos, List.takeWhile_cons_of_neg (by simp), List.append_nil]
    intro id hid
    exact decide_eq_true fun heq => hback (heq ▸ hid)
  have hpart : (back ++ [target]) <+: node :: path := ⟨rest, by rw [hsplit]; simp⟩
  have hhead : (back ++ [target]).head? = some node := by
    have hfirst := congrArg List.head? hsplit
    cases back with
    | nil => simpa using hfirst.symm
    | cons id back => simpa using hfirst.symm
  have hway : target :: back.reverse = (back ++ [target]).reverse := by simp
  rw [htake, hway]
  refine ⟨by simp, ?_, ?_, ?_⟩
  · rw [List.getLast?_concat, ← hway]
    rfl
  · rw [List.dropLast_concat]
    exact List.nodup_reverse.2 (h.simple.sublist hpart.sublist)
  · have hchain : (back ++ [target]).reverse.IsChain g.Leads :=
      List.isChain_reverse.2 <| List.IsChain.prefix h.edges hpart
    refine (hchain.append (List.isChain_singleton target) fun a ha b hb => ?_).imp
      fun _ _ => leads_iff.1
    rw [List.getLast?_reverse, hhead, Option.mem_some_iff] at ha
    obtain rfl : target = b := by simpa using hb
    exact ha ▸ htarget

/-- Of a search that came to its node on a trail: what it reports is a cycle of visited ids, none of
which was visited before, those on the trail apart. -/
def ReportsCycle (g : Graph) (node : String) (path visited : List String) (found : CycleSearch) :
    Prop :=
  node :: visited ⊆ found.visited ∧
    (g.IsTrail node path visited → ∀ ids, found.cycle = some ids →
      g.IsCycle ids ∧ ∀ id ∈ ids, id ∈ found.visited ∧ (id ∈ node :: path ∨ id ∉ visited))

theorem reportsCycle_searchCycle (path : List String)
    (hlevels : (g.unseen (node :: visited)).card < levels) :
    g.ReportsCycle node path visited (g.searchCycle levels node path visited) := by
  refine (g.searchCycle_induction
    (motive := fun node path visited _ found => g.ReportsCycle node path visited found)
    ?start ?ended ?closing ?known ?nested path hlevels).2
  case start =>
    intro node path visited
    exact ⟨List.Subset.refl _, by simp⟩
  case ended =>
    intro node path visited before target found _ ih
    exact ih
  case closing =>
    intro node path visited before target found _ htarget hpath ⟨hsub, _⟩
    refine ⟨hsub, fun htrail ids hids => ?_⟩
    obtain rfl := Option.some.inj hids
    refine ⟨htrail.isCycle htarget hpath, fun id hid => ?_⟩
    have hmem : id ∈ node :: path := mem_path_of_mem_report hpath hid
    refine ⟨?_, .inl hmem⟩
    rcases List.mem_cons.1 hmem with rfl | hmem
    · exact hsub List.mem_cons_self
    · exact hsub (List.mem_cons_of_mem _ (htrail.visited hmem))
  case known =>
    intro node path visited before target found _ _ _ ih
    exact ih
  case nested =>
    intro node path visited before target found result _ htarget hpath hnew hmore ⟨hsub, _⟩
      ⟨_, hresult⟩
    have hall : node :: visited ⊆ result.visited :=
      fun _ hid => hmore (List.mem_cons_of_mem _ (hsub hid))
    refine ⟨hall, fun htrail ids hids => ?_⟩
    obtain ⟨hcycle, hmem⟩ := hresult (htrail.cons htarget hpath hsub) ids hids
    refine ⟨hcycle, fun id hid => ⟨(hmem id hid).1, ?_⟩⟩
    have hold : ∀ id, id ∉ found.visited → id ∉ visited :=
      fun id hid hin => hid (hsub (List.mem_cons_of_mem _ hin))
    rcases (hmem id hid).2 with hid | hid
    · rcases List.mem_cons.1 hid with rfl | hid
      · exact .inr (hold _ hnew)
      · exact .inl hid
    · exact .inr (hold _ hid)

theorem isCycle_of_searchCycle (hlevels : (g.unseen (node :: visited)).card < levels)
    (hnode : node ∉ visited) {ids : List String}
    (hids : (g.searchCycle levels node [] visited).cycle = some ids) :
    g.IsCycle ids ∧
      ∀ id ∈ ids, id ∈ (g.searchCycle levels node [] visited).visited ∧ id ∉ visited := by
  obtain ⟨hcycle, hmem⟩ :=
    (reportsCycle_searchCycle [] hlevels).2 (isTrail_nil g node visited) ids hids
  refine ⟨hcycle, fun id hid => ⟨(hmem id hid).1, ?_⟩⟩
  rcases (hmem id hid).2 with hid | hid
  · exact List.mem_singleton.1 hid ▸ hnode
  · exact hid

theorem cycles_disjoint (g : Graph) :
    (∀ ids ∈ g.cycles, g.IsCycle ids) ∧ g.cycles.Pairwise List.Disjoint := by
  have hcycles := g.cycles_induction
    (motive := fun _ visited found =>
      (∀ ids ∈ found, g.IsCycle ids ∧ ids ⊆ visited) ∧ found.Pairwise List.Disjoint)
    (by simp) ?known ?search
  · obtain ⟨visited, hall, hdisjoint⟩ := hcycles
    exact ⟨fun ids hids => (hall ids hids).1, hdisjoint⟩
  case known =>
    intro before n visited found _ _ ih
    exact ih
  case search =>
    intro before n visited found _ hnew ⟨hall, hdisjoint⟩
    have hlevels := g.card_unseen_lt (n.id :: visited)
    have hsub := subset_visited_searchCycle [] hlevels
    have hold : ∀ ids ∈ found, g.IsCycle ids ∧
        ids ⊆ (g.searchCycle (g.edges.length + 1) n.id [] visited).visited :=
      fun ids hids => ⟨(hall ids hids).1,
        fun _ hid => hsub (List.mem_cons_of_mem _ ((hall ids hids).2 hid))⟩
    cases hcycle : (g.searchCycle (g.edges.length + 1) n.id [] visited).cycle with
    | none => simpa using ⟨hold, hdisjoint⟩
    | some ids =>
      obtain ⟨hids, hmem⟩ := isCycle_of_searchCycle hlevels hnew hcycle
      refine ⟨fun other hother => ?_, ?_⟩
      · rcases List.mem_append.1 hother with hother | hother
        · exact hold other hother
        · obtain rfl : other = ids := by simpa using hother
          exact ⟨hids, fun id hid => (hmem id hid).1⟩
      · refine List.pairwise_append.2 ⟨hdisjoint, List.pairwise_singleton _ _, ?_⟩
        intro earlier hearlier later hlater id hid hid'
        obtain rfl : later = ids := by simpa using hlater
        exact (hmem id hid').2 ((hall earlier hearlier).2 hid)

theorem filter_cycle_validate (g : Graph) (schema : Option Schema) :
    (g.validate schema).filter (·.kind = .cycle) =
      g.cycles.map fun ids => (Finding.cycle ids).diagnostic := by
  rw [filter_validate Finding.kind_eq_cycle_iff, findingsOf, checkCycles, List.map_map]
  rfl

theorem mem_validate_cycle_iff {d : Diagnostic} :
    d ∈ g.validate schema ∧ d.kind = .cycle ↔
      ∃ ids ∈ g.cycles, (Finding.cycle ids).diagnostic = d := by
  rw [← List.mem_map, ← filter_cycle_validate g schema, List.mem_filter, decide_eq_true_iff]

/-- Each cycle that is reported is a closed walk that comes to no id twice, and no two of them share
an id. -/
theorem reported_cycles (g : Graph) (schema : Option Schema) :
    (∀ d ∈ g.validate schema, d.kind = .cycle → g.IsCycle d.relatedIds) ∧
    ((g.validate schema).filter (·.kind = .cycle)).Pairwise
      fun c d => c.relatedIds.Disjoint d.relatedIds := by
  obtain ⟨hcycles, hdisjoint⟩ := g.cycles_disjoint
  constructor
  · intro d hd hkind
    obtain ⟨ids, hids, rfl⟩ := mem_validate_cycle_iff.1 ⟨hd, hkind⟩
    exact hcycles ids hids
  · rw [filter_cycle_validate, List.pairwise_map]
    exact hdisjoint

def rings : Graph :=
  ⟨[⟨"a", .start, {}⟩, ⟨"c", .tool, {}⟩],
    [⟨"1", "a", "b", none, none⟩, ⟨"2", "b", "a", none, none⟩, ⟨"3", "b", "c", none, none⟩,
      ⟨"4", "c", "c", none, none⟩]⟩

theorem rings_reported :
    rings.cycles = [["a", "b", "a"], ["c", "c"]] ∧ rings.IsCycle ["a", "b", "a"] := by
  have hmem : (Finding.cycle ["a", "b", "a"]).diagnostic ∈ rings.validate none := by decide +kernel
  exact ⟨by decide +kernel, (reported_cycles rings none).1 _ hmem rfl⟩

end Graph

end WorkflowGraph
