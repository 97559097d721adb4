import WorkflowGraph.Proofs.Itinerary
import WorkflowGraph.Proofs.Replay
set_option autoImplicit false

namespace WorkflowGraph

inductive Trace.Outcome where
  | noStart
  /-- No edge was taken. -/
  | rested
  /-- An edge led to an id of no node. -/
  | lost
  /-- A decision node came up again before another node had run. -/
  | idle
  | spent
deriving DecidableEq, Repr

def Trace.Outcome.errorKind : Trace.Outcome → Option DiagnosticKind
  | .noStart => some .noStart
  | .rested => none
  | .lost => some .unreachable
  | .idle => some .cycle
  | .spent => some .maxSteps

theorem Trace.Outcome.errorKind_injective : Function.Injective errorKind := by
  intro a b
  cases a <;> cases b <;> simp [errorKind]

/-- The steps of decision nodes at the end of `steps`, as many as stand there in a row. -/
def IsTrailingBlock (steps block : List Step) : Prop :=
  ∃ earlier, steps = earlier ++ block ∧ (∀ step ∈ block, step.nodeType.isDecision = true) ∧
    ∀ last ∈ earlier.getLast?, last.nodeType.isDecision = false

namespace Graph

def LeavesFor (g : Graph) (steps : List Step) (id : String) : Prop :=
  ∃ last, steps.getLast? = some last ∧ g.Executes last (some id)

def Pending (g : Graph) (steps : List Step) (id : String) : Prop :=
  (steps = [] ∧ ∃ start, g.IsFirstStart start ∧ start.id = id) ∨ g.LeavesFor steps id

def EndsAs (g : Graph) (budget : Nat) (t : Trace) : Trace.Outcome → Prop
  | .noStart =>
    t.error = some ⟨.noStart, "Graph has no Start node; nothing to run", []⟩ ∧
      t.terminated = false ∧ t.steps = [] ∧ ∀ n ∈ g.nodes, n.type ≠ .start
  | .rested =>
    t.error = none ∧ t.terminated = true ∧
      ∃ earlier last, t.steps = earlier ++ [last] ∧ g.Executes last none ∧
        ∀ step ∈ earlier, ∃ next, g.Executes step (some next)
  | .lost => ∃ id,
    t.error = some ⟨.unreachable, "Edge leads to unknown node '" ++ id ++ "'", [id]⟩ ∧
      t.terminated = false ∧ t.steps.length < budget ∧ g.LeavesFor t.steps id ∧
        ∀ n ∈ g.nodes, n.id ≠ id
  | .idle => ∃ id block,
    t.error = some ⟨.cycle, "Node '" ++ id ++ "' was revisited without progress",
        block.map (·.nodeId)⟩ ∧
      t.terminated = false ∧ t.steps.length < budget ∧ IsTrailingBlock t.steps block ∧
      (block.map (·.nodeId)).Nodup ∧ id ∈ block.map (·.nodeId) ∧ g.LeavesFor t.steps id
  | .spent => ∃ id,
    t.error = some ⟨.maxSteps, "Step budget of " ++ toString budget ++ " exhausted", [id]⟩ ∧
      t.terminated = false ∧ t.steps.length = budget ∧ g.Pending t.steps id

variable {g : Graph} {start : Node} {initial : State} {steps : List Step} {first p : Position}
  {budget : Nat} {outcome : List Step × Option Failure} {t : Trace}

theorem LeadsUpTo.leavesFor (h : g.LeadsUpTo first steps p) (hsteps : steps ≠ []) :
    g.LeavesFor steps p.current := by
  have hlast := List.getLast?_eq_some_getLast hsteps
  exact ⟨_, hlast, (h.goesOn _ hlast).2⟩

theorem LeadsUpTo.pending (h : g.LeadsUpTo ⟨start.id, initial, []⟩ steps p)
    (hstart : g.IsFirstStart start) : g.Pending steps p.current := by
  by_cases hsteps : steps = []
  · obtain rfl := h.begins hsteps
    exact .inl ⟨hsteps, start, hstart, rfl⟩
  · exact .inr (h.leavesFor hsteps)

theorem Reaches.took_edges (h : g.Reaches first steps p) :
    ∀ step ∈ steps, ∃ next, g.Executes step (some next) := by
  induction h with
  | start => simp
  | move _ _ hnode hnext ih =>
    intro step hstep
    rcases List.mem_append.1 hstep with hstep | hstep
    · exact ih step hstep
    · exact List.mem_singleton.1 hstep ▸ ⟨_, hnext ▸ executes_step hnode _ _⟩

theorem Reaches.nodup_passed (h : g.Reaches first steps p) (hfirst : first.passed = []) :
    p.passed.Nodup := by
  induction h with
  | start => simp [hfirst]
  | move _ hnew _ _ ih =>
    rw [Position.advance]
    split
    · exact List.concat_eq_append ▸ ih.concat hnew
    · exact List.nodup_nil

theorem Reaches.exists_trailingBlock (h : g.Reaches first steps p) (hfirst : first.passed = []) :
    ∃ block, IsTrailingBlock steps block ∧ block.map (·.nodeId) = p.passed := by
  induction h with
  | start => exact ⟨[], ⟨[], rfl, by simp, by simp⟩, hfirst.symm⟩
  | @move steps p node next _ _ hnode _ ih =>
    obtain ⟨block, ⟨earlier, rfl, hblock, hearlier⟩, hpassed⟩ := ih
    have hid : node.id = p.current := (node?_eq_some hnode).2
    cases hd : node.type.isDecision with
    | true =>
      refine ⟨block ++ [node.step g _ p.state],
        ⟨earlier, List.append_assoc _ _ _, ?_, hearlier⟩, ?_⟩
      · intro step hstep
        rcases List.mem_append.1 hstep with hstep | hstep
        · exact hblock step hstep
        · exact List.mem_singleton.1 hstep ▸ hd
      · simp [Position.advance, hd, hpassed, Node.step, hid]
    | false =>
      refine ⟨[], ⟨_, (List.append_nil _).symm, by simp, ?_⟩, by simp [Position.advance, hd]⟩
      intro last hlast
      rw [List.getLast?_concat, Option.mem_some_iff] at hlast
      exact hlast ▸ hd

theorem Ends.exists_endsAs (h : g.Ends ⟨start.id, initial, []⟩ budget outcome)
    (hstart : g.IsFirstStart start) :
    ∃ ending, g.EndsAs budget (.ofWalk initial outcome) ending := by
  cases h with
  | @spent steps p hreaches hlength =>
    exact ⟨.spent, p.current, rfl, rfl, hlength, hreaches.leadsUpTo.pending hstart⟩
  | @revisited steps p hreaches hlength hseen =>
    obtain ⟨block, hblock, hpassed⟩ := hreaches.exists_trailingBlock rfl
    -- A walk starts with nothing passed and at a declared node, so it has taken an edge by now.
    have hsteps : steps ≠ [] := by
      rintro rfl
      simp [hreaches.leadsUpTo.begins rfl] at hseen
    refine ⟨.idle, p.current, block, ?_, rfl, hlength, hblock, ?_, ?_,
      hreaches.leadsUpTo.leavesFor hsteps⟩
    · rw [hpassed]
      rfl
    · exact hpassed ▸ hreaches.nodup_passed rfl
    · exact hpassed ▸ hseen
  | @unknown steps p hreaches hlength hnode =>
    have hsteps : steps ≠ [] := by
      rintro rfl
      obtain rfl := hreaches.leadsUpTo.begins rfl
      exact hstart.node?_ne_none hnode
    exact ⟨.lost, p.current, rfl, rfl, hlength, hreaches.leadsUpTo.leavesFor hsteps,
      node?_eq_none_iff.1 hnode⟩
  | @stop steps p node hreaches _ hnode hstop =>
    exact ⟨.rested, rfl, rfl, steps, _, rfl, hstop ▸ executes_step hnode _ _, hreaches.took_edges⟩

theorem EndsAs.errorKind {ending : Trace.Outcome} (h : g.EndsAs budget t ending) :
    t.errorKind = ending.errorKind := by
  cases ending with
  | noStart | rested => simp [Trace.errorKind, h.1, Trace.Outcome.errorKind]
  | lost | spent =>
    obtain ⟨id, herror, -⟩ := h
    simp [Trace.errorKind, herror, Trace.Outcome.errorKind]
  | idle =>
    obtain ⟨id, block, herror, -⟩ := h
    simp [Trace.errorKind, herror, Trace.Outcome.errorKind]

theorem EndsAs.unique {a b : Trace.Outcome} (ha : g.EndsAs budget t a) (hb : g.EndsAs budget t b) :
    a = b :=
  Trace.Outcome.errorKind_injective (ha.errorKind.symm.trans hb.errorKind)

theorem Pending.unique {a b : String} (ha : g.Pending steps a) (hb : g.Pending steps b) :
    a = b := by
  rcases ha with ⟨rfl, n, hn, rfl⟩ | ⟨last, hlast, ha⟩
  · rcases hb with ⟨-, m, hm, rfl⟩ | ⟨last, hlast, -⟩
    · rw [← start?_eq_some_iff] at hn hm
      rw [Option.some.inj (hn.symm.trans hm)]
    · simp at hlast
  · rcases hb with ⟨rfl, -⟩ | ⟨other, hother, hb⟩
    · simp at hlast
    · obtain rfl : last = other := Option.some.inj (hlast.symm.trans hother)
      exact Option.some.inj (ha.next_unique hb)

theorem EndsAs.error_of_pending {ending : Trace.Outcome} {id : String}
    (h : g.EndsAs budget t ending) (hid : g.Pending t.steps id)
    (hlength : t.steps.length = budget) :
    t.error = some ⟨.maxSteps, "Step budget of " ++ toString budget ++ " exhausted", [id]⟩ := by
  cases ending with
  | noStart =>
    obtain ⟨-, -, hsteps, hnodes⟩ := h
    rcases hid with ⟨-, start, hstart, -⟩ | ⟨last, hlast, -⟩
    · exact absurd hstart.1 (hnodes start (start?_eq_some (start?_eq_some_iff.2 hstart)))
    · simp [hsteps] at hlast
  | rested =>
    obtain ⟨-, -, earlier, last, hsteps, hrests, -⟩ := h
    rcases hid with ⟨hnil, -⟩ | ⟨other, hother, hexecutes⟩
    · simp [hsteps] at hnil
    · rw [hsteps, List.getLast?_concat] at hother
      obtain rfl := Option.some.inj hother
      exact absurd (hrests.next_unique hexecutes) (by simp)
  | lost =>
    -- The other failures come up only while there is budget left.
    obtain ⟨-, -, -, hless, -⟩ := h
    omega
  | idle =>
    obtain ⟨-, -, -, -, hless, -⟩ := h
    omega
  | spent =>
    obtain ⟨other, herror, -, -, hother⟩ := h
    rw [hid.unique hother, herror]

/-- A run ends in exactly one of five ways. When it has used up its budget it reports the id that
was to run next, whatever that id stands for. -/
theorem run_endsAs_unique (g : Graph) (budget : Nat) (initial : State) :
    (g.run budget initial).steps.length ≤ budget ∧
    (∃! ending, g.EndsAs budget (g.run budget initial) ending) ∧
    ∀ id, g.Pending (g.run budget initial).steps id → (g.run budget initial).steps.length = budget →
      (g.run budget initial).error =
        some ⟨.maxSteps, "Step budget of " ++ toString budget ++ " exhausted", [id]⟩ := by
  have hends : (g.run budget initial).steps.length ≤ budget ∧
      ∃ ending, g.EndsAs budget (g.run budget initial) ending := by
    cases hstart : g.start? with
    | none =>
      rw [run_of_no_start hstart]
      exact ⟨Nat.zero_le budget, .noStart, rfl, rfl, rfl, start?_eq_none_iff.1 hstart⟩
    | some start =>
      rw [run_of_start hstart]
      exact ⟨g.length_walk_le budget budget 0 _,
        (g.ends_walk _ budget).exists_endsAs (start?_eq_some_iff.1 hstart)⟩
  obtain ⟨hlength, ending, hending⟩ := hends
  exact ⟨hlength, ⟨ending, hending, fun _ hother => hother.unique hending⟩,
    fun _ hid hspent => hending.error_of_pending hid hspent⟩

def astray : Graph := ⟨[⟨"s", .start, {}⟩], [⟨"1", "s", "gone", none, none⟩]⟩

theorem astray_ends :
    (astray.run 2 Fields.empty).error =
        some ⟨.unreachable, "Edge leads to unknown node 'gone'", ["gone"]⟩ ∧
      (astray.run 1 Fields.empty).error =
        some ⟨.maxSteps, "Step budget of 1 exhausted", ["gone"]⟩ := by
  let start : Node := ⟨"s", .start, {}⟩
  have hstart : astray.start? = some start := rfl
  have hnode : astray.node? "s" = some start := rfl
  have hnext : (start.selection astray Fields.empty).next = some "gone" := by decide +kernel
  have hexecutes : astray.Executes (start.step astray 0 Fields.empty) (some "gone") :=
    hnext ▸ executes_step hnode 0 Fields.empty
  have hsteps : (astray.run 1 Fields.empty).steps = [start.step astray 0 Fields.empty] := by
    rw [run_of_start hstart, walk_next (p := ⟨"s", Fields.empty, []⟩) List.not_mem_nil hnode hnext]
    rfl
  have hpending : astray.Pending (astray.run 1 Fields.empty).steps "gone" :=
    .inr ⟨_, congrArg List.getLast? hsteps, hexecutes⟩
  exact ⟨by decide +kernel, (run_endsAs_unique astray 1 Fields.empty).2.2 "gone" hpending
    (congrArg List.length hsteps)⟩

end Graph

end WorkflowGraph
