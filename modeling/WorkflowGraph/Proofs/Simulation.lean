import WorkflowGraph.Proofs.Itinerary
set_option autoImplicit false

/-!
# Runs of two graphs side by side

Two graphs walk from the same position. As long as its id stands for nodes that do the same in both
graphs, both walks move on to the same next position, so they agree step by step in all that is
observed of a step (`Simulates.walk_eq`). What nodes do to which no way leads is of no concern: this
is what the property `P` of ids is for.
-/
namespace WorkflowGraph

variable {α : Type} {observe : Step → α} {P : String → Prop} {g h : Graph} {n m : Node}
  {id : String}

/-- Each node does in its graph what the other does in the other graph, as far as steps are
observed. -/
structure Node.Matches (observe : Step → α) (g h : Graph) (n m : Node) : Prop where
  step : ∀ number s, observe (n.step g number s) = observe (m.step h number s)
  next : ∀ s, (n.selection g s).next = (m.selection h s).next
  state : ∀ s, n.type.apply n s = m.type.apply m s
  decision : n.type.isDecision = m.type.isDecision

theorem Node.Matches.advance (hmatch : n.Matches observe g h m) (p : Position) (next : String) :
    p.advance n next = p.advance m next := by
  rw [Position.advance, Position.advance, hmatch.state, hmatch.decision]

theorem Node.matches_of_outgoing_eq (observe : Step → α)
    (hout : g.outgoing n.id = h.outgoing n.id) :
    n.Matches observe g h n := by
  have hselection : ∀ s, n.selection g s = n.selection h s := by
    intro s
    rw [selection, selection, hout]
  refine ⟨fun number s => ?_, fun s => ?_, fun _ => rfl, rfl⟩
  · rw [step, step, hselection]
  · rw [hselection]

namespace Graph

/-- On the ids with the property the graphs have nodes that match, and no edge leads away from these
ids. -/
structure Simulates (observe : Step → α) (P : String → Prop) (g h : Graph) : Prop where
  nodes : ∀ id, P id → Option.Rel (Node.Matches observe g h) (g.node? id) (h.node? id)
  stays : ∀ a b, P a → g.Leads a b → P b

theorem Simulates.node?_eq_none (hsim : Simulates observe P g h) (hid : P id)
    (hnode : g.node? id = none) : h.node? id = none := by
  have hnodes := hsim.nodes id hid
  rw [hnode] at hnodes
  cases hother : h.node? id with
  | none => rfl
  | some m =>
    rw [hother] at hnodes
    exact absurd hnodes Option.not_rel_none_some

theorem Simulates.exists_node (hsim : Simulates observe P g h) (hid : P id)
    (hnode : g.node? id = some n) : ∃ m, h.node? id = some m ∧ n.Matches observe g h m := by
  have hnodes := hsim.nodes id hid
  rw [hnode] at hnodes
  cases hother : h.node? id with
  | none =>
    rw [hother] at hnodes
    exact absurd hnodes Option.not_rel_some_none
  | some m =>
    rw [hother] at hnodes
    exact ⟨m, rfl, Option.rel_some_some.1 hnodes⟩

theorem Simulates.walk_eq (hsim : Simulates observe P g h) (budget left number : Nat) (p : Position)
    (hp : P p.current) :
    (g.walk budget left number p).1.map observe = (h.walk budget left number p).1.map observe ∧
      (g.walk budget left number p).2 = (h.walk budget left number p).2 := by
  induction left, number, p using g.walk_induction budget with
  | spent number p =>
    rw [walk_zero]
    exact ⟨rfl, rfl⟩
  | revisited left number p hseen =>
    rw [walk_revisited hseen]
    exact ⟨rfl, rfl⟩
  | unknown left number p hnew hnode =>
    rw [walk_unknown hnew (hsim.node?_eq_none hp hnode)]
    exact ⟨rfl, rfl⟩
  | stop left number p n hnew hnode hstop =>
    obtain ⟨m, hother, hmatch⟩ := hsim.exists_node hp hnode
    rw [hmatch.next] at hstop
    rw [walk_stop hnew hother hstop]
    exact ⟨congrArg (fun o => [o]) (hmatch.step number p.state), rfl⟩
  | advance left number p n next steps failure hnew hnode hnext _ ih =>
    obtain ⟨m, hother, hmatch⟩ := hsim.exists_node hp hnode
    -- Both walks move to one position, and its id has the property again.
    have hlead : g.Leads p.current next := (node?_eq_some hnode).2 ▸ leads_of_next hnext
    obtain ⟨hsteps, hfailure⟩ := ih (hsim.stays _ _ hp hlead)
    rw [hmatch.advance] at hsteps hfailure
    rw [hmatch.next] at hnext
    rw [walk_next hnew hother hnext]
    exact ⟨congrArg₂ List.cons (hmatch.step number p.state) hsteps, hfailure⟩

theorem Simulates.run_eq (hsim : Simulates observe P g h)
    (hstart : g.start?.map (·.id) = h.start?.map (·.id)) (hfirst : ∀ n ∈ g.start?, P n.id)
    (budget : Nat) (initial : State) :
    (g.run budget initial).steps.map observe = (h.run budget initial).steps.map observe ∧
      (g.run budget initial).terminated = (h.run budget initial).terminated ∧
      (g.run budget initial).error = (h.run budget initial).error := by
  cases hg : g.start? with
  | none =>
    have hh : h.start? = none := by simpa [hg] using hstart.symm
    rw [run_of_no_start hg, run_of_no_start hh]
    exact ⟨rfl, rfl, rfl⟩
  | some n =>
    obtain ⟨m, hh, hid⟩ : ∃ m, h.start? = some m ∧ m.id = n.id := by
      simpa [hg] using hstart.symm
    obtain ⟨hsteps, hfailure⟩ :=
      hsim.walk_eq budget budget 0 ⟨n.id, initial, []⟩ (hfirst n hg)
    rw [run_of_start hg, run_of_start hh, hid]
    exact ⟨hsteps, congrArg Option.isNone hfailure,
      congrArg (Option.map Failure.diagnostic) hfailure⟩

theorem finalState_run (g : Graph) (budget : Nat) (initial : State) :
    (g.run budget initial).finalState =
      ((g.run budget initial).steps.map (·.after)).getLastD initial := by
  cases hstart : g.start? with
  | none =>
    rw [run_of_no_start hstart]
    rfl
  | some n =>
    rw [run_of_start hstart, List.getLastD_eq_getLast?, List.getLast?_map]
    rfl

/-- If no way leads from the start to an id that stands for another node or has other edges, the
runs are the same. -/
theorem run_congr (hstart : g.start? = h.start?) (hfirst : ∀ n ∈ g.start?, P n.id)
    (hnode : ∀ id, P id → g.node? id = h.node? id)
    (hout : ∀ id, P id → g.outgoing id = h.outgoing id)
    (hstays : ∀ a b, P a → g.Leads a b → P b) (budget : Nat) (initial : State) :
    g.run budget initial = h.run budget initial := by
  have hsim : Simulates (fun step => step) P g h := by
    refine ⟨fun id hid => ?_, hstays⟩
    rw [← hnode id hid]
    cases hg : g.node? id with
    | none => exact Option.rel_none_none
    | some n =>
      obtain rfl : n.id = id := (node?_eq_some hg).2
      exact Option.rel_some_some.2 (Node.matches_of_outgoing_eq _ (hout n.id hid))
  cases hg : g.start? with
  | none => rw [run_of_no_start hg, run_of_no_start (hstart ▸ hg)]
  | some n =>
    obtain ⟨hsteps, hfailure⟩ :=
      hsim.walk_eq budget budget 0 ⟨n.id, initial, []⟩ (hfirst n hg)
    rw [List.map_id', List.map_id'] at hsteps
    rw [run_of_start hg, run_of_start (hstart ▸ hg), Prod.ext hsteps hfailure]

end Graph

end WorkflowGraph
