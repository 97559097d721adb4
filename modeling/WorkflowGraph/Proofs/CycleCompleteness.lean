import WorkflowGraph.Proofs.CycleReports
set_option autoImplicit false

/-!
# No cycle is missed

A search that ends with a cycle leaves ids visited whose targets it has not gone through, and later
searches pass them over. All of them are connected with the cycle that was reported. So of each
visited id it holds that every way from it comes to an end, or that a cycle connected with it has
been reported (`Settled`), and a search that finds nothing keeps this.
-/
namespace WorkflowGraph.Graph

def Connected (g : Graph) : String → String → Prop := Relation.EqvGen g.Leads

/-- Every way from the id comes to an end, or one of the cycles is connected with it. -/
def Settled (g : Graph) (found : List (List String)) (id : String) : Prop :=
  g.Grounded id ∨ ∃ ids ∈ found, ∀ i ∈ ids, g.Connected id i

variable {g : Graph} {node id : String} {path visited : List String} {levels : Nat}
  {found : List (List String)} {schema : Option Schema}

theorem connected_of_reflTransGen {a b : String} (h : Relation.ReflTransGen g.Leads a b) :
    g.Connected a b := by
  induction h with
  | refl => exact .refl a
  | tail _ hlast ih => exact .trans _ _ _ ih (.rel _ _ hlast)

theorem Grounded.of_reflTransGen {a b : String} (h : g.Grounded a)
    (hway : Relation.ReflTransGen g.Leads a b) : g.Grounded b := by
  induction hway with
  | refl => exact h
  | tail _ hlast ih => exact ih.inv hlast

theorem settled_of_targets (found : List (List String)) (a : String)
    (h : ∀ b, g.Leads a b → g.Settled found b) : g.Settled found a := by
  by_cases hgrounded : ∀ b, g.Leads a b → g.Grounded b
  · exact .inl (Acc.intro a hgrounded)
  · simp only [not_forall] at hgrounded
    obtain ⟨b, hlead, hb⟩ := hgrounded
    obtain ⟨ids, hids, hconnected⟩ := (h b hlead).resolve_left hb
    exact .inr ⟨ids, hids, fun i hi => .trans _ _ _ (.rel _ _ hlead) (hconnected i hi)⟩

theorem Settled.mono {more : List (List String)} (h : g.Settled found id) (hsub : found ⊆ more) :
    g.Settled more id :=
  h.imp_right fun ⟨ids, hids, hconnected⟩ => ⟨ids, hsub hids, hconnected⟩

/-- All that a search visits and reports has a property that its node and path have, if the property
passes along edges. -/
def StaysIn (P : String → Prop) (node : String) (path visited : List String)
    (found : CycleSearch) : Prop :=
  (∀ id ∈ node :: path, P id) →
    (∀ id ∈ found.visited, id ∈ visited ∨ P id) ∧
      ∀ ids, found.cycle = some ids → ∀ id ∈ ids, P id

theorem staysIn_searchCycle {P : String → Prop} (hP : ∀ a b, g.Leads a b → P a → P b)
    (path : List String) (hlevels : (g.unseen (node :: visited)).card < levels) :
    StaysIn P node path visited (g.searchCycle levels node path visited) := by
  refine (g.searchCycle_induction
    (motive := fun node path visited _ found => StaysIn P node path visited found)
    ?start ?ended ?closing ?known ?nested path hlevels).2
  case start =>
    intro node path visited hpath
    refine ⟨fun id hid => ?_, by simp⟩
    rcases List.mem_cons.1 hid with rfl | hid
    · exact .inr (hpath id List.mem_cons_self)
    · exact .inl hid
  case ended =>
    intro node path visited before target found _ ih
    exact ih
  case closing =>
    intro node path visited before target found _ _ htarget ih hpath
    refine ⟨(ih hpath).1, fun ids hids id hid => hpath id ?_⟩
    obtain rfl := Option.some.inj hids
    exact mem_path_of_mem_report htarget hid
  case known =>
    intro node path visited before target found _ _ _ ih
    exact ih
  case nested =>
    intro node path visited before target found result _ hlead _ _ _ ih hresult hpath
    obtain ⟨hvisited, -⟩ := ih hpath
    have htarget : P target := hP node target hlead (hpath node List.mem_cons_self)
    obtain ⟨hmore, hcycle⟩ := hresult (List.forall_mem_cons.2 ⟨htarget, hpath⟩)
    refine ⟨fun id hid => ?_, hcycle⟩
    rcases hmore id hid with hid | hid
    · exact hvisited id hid
    · exact .inr hid

theorem searchCycle_reaches (hlevels : (g.unseen (node :: visited)).card < levels) :
    (∀ id ∈ (g.searchCycle levels node [] visited).visited,
      id ∈ visited ∨ Relation.ReflTransGen g.Leads node id) ∧
    ∀ ids, (g.searchCycle levels node [] visited).cycle = some ids →
      ∀ id ∈ ids, Relation.ReflTransGen g.Leads node id :=
  staysIn_searchCycle (fun _ _ hlead hway => hway.tail hlead) [] hlevels
    fun id hid => by rw [List.mem_singleton.1 hid]

theorem settled_searchCycle (hlevels : (g.unseen (node :: visited)).card < levels)
    (hvisited : ∀ id ∈ visited, g.Settled found id) :
    ∀ id ∈ (g.searchCycle levels node [] visited).visited,
      g.Settled (found ++ (g.searchCycle levels node [] visited).cycle.toList) id := by
  intro id hid
  cases hcycle : (g.searchCycle levels node [] visited).cycle with
  | none =>
    rw [Option.toList_none, List.append_nil]
    exact forall_visited_searchCycle (settled_of_targets found) hlevels hvisited hcycle id hid
  | some ids =>
    -- What was visited only now is connected with the report through the node of the search.
    obtain ⟨hreached, hreport⟩ := searchCycle_reaches hlevels
    rcases hreached id hid with hold | hway
    · exact (hvisited id hold).mono (List.subset_append_left _ _)
    · refine .inr ⟨ids, by simp, fun i hi => ?_⟩
      exact .trans _ _ _ (.symm _ _ (connected_of_reflTransGen hway))
        (connected_of_reflTransGen (hreport ids hcycle i hi))

theorem settled_of_mem_nodes (g : Graph) : ∀ n ∈ g.nodes, g.Settled g.cycles n.id := by
  have hcycles := g.cycles_induction
    (motive := fun before visited found =>
      (∀ id ∈ visited, g.Settled found id) ∧ ∀ m ∈ before, m.id ∈ visited)
    (by simp) ?known ?search
  · obtain ⟨visited, hsettled, hall⟩ := hcycles
    exact fun n hn => hsettled n.id (hall n hn)
  case known =>
    intro before n visited found _ hseen ⟨hsettled, hall⟩
    refine ⟨hsettled, fun m hm => ?_⟩
    rcases List.mem_append.1 hm with hm | hm
    · exact hall m hm
    · exact List.mem_singleton.1 hm ▸ hseen
  case search =>
    intro before n visited found _ _ ⟨hsettled, hall⟩
    have hlevels := g.card_unseen_lt (n.id :: visited)
    have hsub := subset_visited_searchCycle [] hlevels
    refine ⟨settled_searchCycle hlevels hsettled, fun m hm => ?_⟩
    rcases List.mem_append.1 hm with hm | hm
    · exact hsub (List.mem_cons_of_mem _ (hall m hm))
    · rw [List.mem_singleton.1 hm]
      exact hsub List.mem_cons_self

/-- If no search finds a cycle, every way from a declared node comes to an end. -/
theorem grounded_of_cycles_eq_nil (h : g.cycles = []) {n : Node} (hn : n ∈ g.nodes) :
    g.Grounded n.id :=
  (g.settled_of_mem_nodes n hn).resolve_right (by simp [h])

/-- Each cycle that is reported lies where some declared node leads. -/
theorem exists_node_of_mem_cycles (g : Graph) : ∀ ids ∈ g.cycles,
    ∃ n ∈ g.nodes, ∀ id ∈ ids, Relation.ReflTransGen g.Leads n.id id := by
  have hcycles := g.cycles_induction
    (motive := fun _ _ found => ∀ ids ∈ found,
      ∃ n ∈ g.nodes, ∀ id ∈ ids, Relation.ReflTransGen g.Leads n.id id)
    (by simp) ?known ?search
  · exact hcycles.choose_spec
  case known =>
    intro before n visited found _ _ ih
    exact ih
  case search =>
    intro before n visited found hn _ ih ids hids
    rcases List.mem_append.1 hids with hids | hids
    · exact ih ids hids
    · have hlevels := g.card_unseen_lt (n.id :: visited)
      exact ⟨n, hn, (searchCycle_reaches hlevels).2 ids (by simpa using hids)⟩

theorem IsCycle.exists_transGen {ids : List String} (h : g.IsCycle ids) :
    ∃ id ∈ ids, Relation.TransGen g.Leads id id := by
  obtain ⟨first, rest, rfl⟩ :=
    List.exists_cons_of_length_pos (Nat.lt_of_lt_of_le Nat.two_pos h.length)
  have hrest : rest ≠ [] := by
    rintro rfl
    simpa using h.length
  have hlong : (first :: rest).IsChain (Relation.TransGen g.Leads) :=
    h.edges.imp fun _ _ hedge => .single (leads_iff.2 hedge)
  have hall := (List.pairwise_cons.1 (List.isChain_iff_pairwise.1 hlong)).1
  have hlast : rest.getLast hrest = first := by
    have hclosed := h.closed
    rw [List.head?_cons, List.getLast?_cons, List.getLast?_eq_some_getLast hrest] at hclosed
    exact (Option.some.inj hclosed).symm
  exact ⟨first, List.mem_cons_self, hall first (hlast ▸ List.getLast_mem hrest)⟩

/-- For each cycle that a declared node leads to, a cycle connected with it is reported, and none is
reported where there is no such cycle. -/
theorem reported_cycles_complete (g : Graph) (schema : Option Schema) :
    (∀ n ∈ g.nodes, ∀ id, Relation.ReflTransGen g.Leads n.id id →
      Relation.TransGen g.Leads id id →
      ∃ d ∈ g.validate schema, d.kind = .cycle ∧ d.relatedIds ≠ [] ∧
        ∀ i ∈ d.relatedIds, g.Connected id i) ∧
    ((∀ d ∈ g.validate schema, d.kind ≠ .cycle) ↔
      ∀ n ∈ g.nodes, ∀ id, Relation.ReflTransGen g.Leads n.id id →
        ¬ Relation.TransGen g.Leads id id) := by
  have hcomplete : ∀ n ∈ g.nodes, ∀ id, Relation.ReflTransGen g.Leads n.id id →
      Relation.TransGen g.Leads id id →
      ∃ d ∈ g.validate schema, d.kind = .cycle ∧ d.relatedIds ≠ [] ∧
        ∀ i ∈ d.relatedIds, g.Connected id i := by
    intro n hn id hway hback
    have hloose : ¬ g.Grounded n.id := fun h => (h.of_reflTransGen hway).not_transGen hback
    obtain ⟨ids, hids, hconnected⟩ := (g.settled_of_mem_nodes n hn).resolve_left hloose
    obtain ⟨hmem, hkind⟩ := mem_validate_cycle_iff.2 ⟨ids, hids, rfl⟩
    refine ⟨_, hmem, hkind, ?_, fun i hi => ?_⟩
    · obtain ⟨first, hfirst, -⟩ := (g.cycles_disjoint.1 ids hids).exists_transGen
      exact List.ne_nil_of_mem hfirst
    · exact .trans _ _ _ (.symm _ _ (connected_of_reflTransGen hway)) (hconnected i hi)
  refine ⟨hcomplete, fun hnone n hn id hway hback => ?_, fun hnone d hd hkind => ?_⟩
  · obtain ⟨d, hd, hkind, -⟩ := hcomplete n hn id hway hback
    exact hnone d hd hkind
  · obtain ⟨ids, hids, -⟩ := mem_validate_cycle_iff.1 ⟨hd, hkind⟩
    obtain ⟨n, hn, hreach⟩ := g.exists_node_of_mem_cycles ids hids
    obtain ⟨id, hid, hback⟩ := (g.cycles_disjoint.1 ids hids).exists_transGen
    exact hnone n hn id (hreach id hid) hback

def forked : Graph :=
  ⟨[⟨"s", .start, {}⟩],
    [⟨"1", "s", "a", none, none⟩, ⟨"2", "a", "a", none, none⟩, ⟨"3", "s", "b", none, none⟩,
      ⟨"4", "b", "b", none, none⟩]⟩

theorem forked_reported :
    forked.cycles = [["a", "a"]] ∧
      ∃ d ∈ forked.validate none, d.kind = .cycle ∧ d.relatedIds ≠ [] ∧
        ∀ i ∈ d.relatedIds, forked.Connected "b" i := by
  have hnode : (⟨"s", .start, {}⟩ : Node) ∈ forked.nodes := List.mem_singleton.2 rfl
  have hlead : "b" ∈ forked.targets "s" := by decide +kernel
  have hloop : "b" ∈ forked.targets "b" := by decide +kernel
  exact ⟨by decide +kernel,
    (reported_cycles_complete forked none).1 _ hnode "b" (.single hlead) (.single hloop)⟩

end WorkflowGraph.Graph
