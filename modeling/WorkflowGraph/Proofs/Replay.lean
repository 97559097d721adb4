import WorkflowGraph.Proofs.Declarations
import WorkflowGraph.Proofs.Progress
set_option autoImplicit false

namespace WorkflowGraph.Graph

/-- The step records what the last declared node with its id does to the state before it, and that
node selects `next` on the state after it. -/
def Executes (g : Graph) (step : Step) (next : Option String) : Prop :=
  ∃ node edges, g.IsLastDeclared node ∧ g.AreOutgoing node.id edges ∧
    step.nodeId = node.id ∧ step.nodeType = node.type ∧
    step.after = node.type.apply node step.before ∧
    node.type.select node edges step.after = ⟨next, step.fired, step.blocked, step.explanation⟩

def Follows (g : Graph) (earlier later : Step) : Prop :=
  later.before = earlier.after ∧
    ∃ edges edge, g.AreOutgoing earlier.nodeId edges ∧
      edges.find? (·.fires earlier.after) = some edge ∧
      earlier.fired.head? = some edge.id ∧ later.nodeId = edge.target

structure Replays (g : Graph) (start : Node) (initial : State) (steps : List Step) : Prop where
  numbered : steps.map (·.number) = List.range steps.length
  begins : ∀ step ∈ steps.head?, step.nodeId = start.id ∧ step.before = initial
  executed : ∀ step ∈ steps, ∃ next, g.Executes step next
  followed : steps.IsChain g.Follows

variable {g : Graph} {start node : Node} {initial : State} {steps : List Step} {step : Step}
  {p : Position} {budget : Nat} {outcome : List Step × Option Failure}

theorem executes_step {id : String} (hnode : g.node? id = some node) (number : Nat) (s : State) :
    g.Executes (node.step g number s) (node.selection g s).next :=
  ⟨node, g.outgoing node.id, (node?_eq_some_iff.1 hnode).1, areOutgoing_iff.2 rfl, rfl, rfl, rfl,
    rfl⟩

theorem Executes.next_unique {a b : Option String} (ha : g.Executes step a)
    (hb : g.Executes step b) : a = b := by
  obtain ⟨n, edges, hn, hedges, hnid, -, -, hselect⟩ := ha
  obtain ⟨m, others, hm, hothers, hmid, -, -, hselect'⟩ := hb
  have hnode : g.node? step.nodeId = some n := node?_eq_some_iff.2 ⟨hn, hnid.symm⟩
  have hnode' : g.node? step.nodeId = some m := node?_eq_some_iff.2 ⟨hm, hmid.symm⟩
  obtain rfl : n = m := Option.some.inj (hnode.symm.trans hnode')
  obtain rfl : edges = others := hedges.unique hothers
  exact congrArg Selection.next (hselect.symm.trans hselect')

theorem Executes.follows {later : Step} (h : g.Executes step (some later.nodeId))
    (hstate : later.before = step.after) : g.Follows step later := by
  obtain ⟨node, edges, -, hedges, hid, -, -, hselect⟩ := h
  obtain ⟨edge, hfind, htarget, hfired⟩ :=
    NodeType.exists_taken_of_next (congrArg Selection.next hselect)
  rw [hselect] at hfired
  exact ⟨hstate, edges, edge, hid ▸ hedges, hfind, hfired, htarget.symm⟩

theorem replays_nil (g : Graph) (start : Node) (initial : State) : g.Replays start initial [] :=
  ⟨rfl, by simp, by simp, List.isChain_nil⟩

theorem Replays.concat {next : Option String} (h : g.Replays start initial steps)
    (hnumber : step.number = steps.length)
    (hbegins : steps = [] → step.nodeId = start.id ∧ step.before = initial)
    (hexecutes : g.Executes step next) (hfollows : ∀ last ∈ steps.getLast?, g.Follows last step) :
    g.Replays start initial (steps ++ [step]) where
  numbered := by
    rw [List.map_append, h.numbered, List.length_append, List.length_singleton, List.range_succ,
      List.map_singleton, hnumber]
  begins := by
    cases steps with
    | nil => simpa using hbegins rfl
    | cons first steps => exact h.begins
  executed := by
    intro s hs
    rcases List.mem_append.1 hs with hs | hs
    · exact h.executed s hs
    · exact List.mem_singleton.1 hs ▸ ⟨next, hexecutes⟩
  followed := by
    refine h.followed.append (List.isChain_singleton step) fun last hlast later hlater => ?_
    obtain rfl : step = later := by simpa using hlater
    exact hfollows last hlast

/-- What the steps say of the position that comes after them. -/
structure LeadsUpTo (g : Graph) (first : Position) (steps : List Step) (p : Position) : Prop where
  begins : steps = [] → p = first
  goesOn : ∀ last ∈ steps.getLast?, last.after = p.state ∧ g.Executes last (some p.current)

theorem Reaches.leadsUpTo {first : Position} (h : g.Reaches first steps p) :
    g.LeadsUpTo first steps p := by
  cases h with
  | start => exact ⟨fun _ => rfl, by simp⟩
  | move _ _ hnode hnext =>
    refine ⟨by simp, fun last hlast => ?_⟩
    rw [List.getLast?_concat, Option.mem_some_iff] at hlast
    subst hlast
    exact ⟨rfl, hnext ▸ executes_step hnode _ _⟩

theorem Replays.concat_step (h : g.Replays start initial steps)
    (hup : g.LeadsUpTo ⟨start.id, initial, []⟩ steps p) (hnode : g.node? p.current = some node) :
    g.Replays start initial (steps ++ [node.step g steps.length p.state]) := by
  have hid : node.id = p.current := (node?_eq_some hnode).2
  refine h.concat rfl (fun hnil => ?_) (executes_step hnode _ _) fun last hlast => ?_
  · obtain rfl := hup.begins hnil
    exact ⟨hid, rfl⟩
  · obtain ⟨hstate, hexecutes⟩ := hup.goesOn last hlast
    rw [← hid] at hexecutes
    exact hexecutes.follows hstate.symm

theorem Reaches.replays (h : g.Reaches ⟨start.id, initial, []⟩ steps p) :
    g.Replays start initial steps := by
  induction h with
  | start => exact replays_nil g start initial
  | move hreaches _ hnode _ ih => exact ih.concat_step hreaches.leadsUpTo hnode

theorem Ends.replays (h : g.Ends ⟨start.id, initial, []⟩ budget outcome) :
    g.Replays start initial outcome.1 := by
  cases h with
  | spent hreaches | revisited hreaches | unknown hreaches => exact hreaches.replays
  | stop hreaches _ hnode => exact hreaches.replays.concat_step hreaches.leadsUpTo hnode

theorem Ends.steps_ne_nil (h : g.Ends ⟨start.id, initial, []⟩ budget outcome)
    (hstart : g.node? start.id ≠ none) (hbudget : 0 < budget) : outcome.1 ≠ [] := by
  intro hnil
  cases h with
  | spent _ hlength =>
    rw [← hlength, List.length_pos_iff] at hbudget
    exact hbudget hnil
  | revisited hreaches _ hseen =>
    obtain rfl := hreaches.leadsUpTo.begins hnil
    simp at hseen
  | unknown hreaches _ hnode =>
    obtain rfl := hreaches.leadsUpTo.begins hnil
    exact hstart hnode
  | stop => simp at hnil

theorem IsFirstStart.node?_ne_none (h : g.IsFirstStart start) : g.node? start.id ≠ none := by
  intro hnone
  exact node?_eq_none_iff.1 hnone start (start?_eq_some (start?_eq_some_iff.2 h)) rfl

/-- The trace of a run replays the graph from its first start node on. -/
theorem run_replays (hstart : g.IsFirstStart start) (budget : Nat) (initial : State) :
    g.Replays start initial (g.run budget initial).steps ∧
    (g.run budget initial).finalState =
      ((g.run budget initial).steps.map (·.after)).getLastD initial ∧
    (0 < budget → (g.run budget initial).steps ≠ []) := by
  have hends := g.ends_walk ⟨start.id, initial, []⟩ budget
  rw [run_of_start (start?_eq_some_iff.2 hstart)]
  refine ⟨hends.replays, ?_, hends.steps_ne_nil hstart.node?_ne_none⟩
  rw [List.getLastD_eq_getLast?, List.getLast?_map]
  rfl

def redeclared : Graph :=
  ⟨[⟨"s", .start, {}⟩, ⟨"w", .tool, {}⟩, ⟨"e", .terminal, {}⟩, ⟨"w", .llm, {}⟩],
    [⟨"2", "s", "e", none, none⟩, ⟨"1", "s", "w", none, none⟩, ⟨"1", "s", "e", none, none⟩,
      ⟨"3", "w", "e", none, none⟩]⟩

theorem redeclared_replays :
    redeclared.IsFirstStart ⟨"s", .start, {}⟩ ∧
      redeclared.Replays ⟨"s", .start, {}⟩ Fields.empty (redeclared.run 9 Fields.empty).steps ∧
      (redeclared.run 9 Fields.empty).steps ≠ [] := by
  have hstart : redeclared.IsFirstStart ⟨"s", .start, {}⟩ := ⟨rfl, [], _, rfl, by simp⟩
  obtain ⟨hreplays, -, hsteps⟩ := run_replays hstart 9 Fields.empty
  exact ⟨hstart, hreplays, hsteps (by decide)⟩

end WorkflowGraph.Graph
