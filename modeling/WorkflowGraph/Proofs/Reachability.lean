import WorkflowGraph.Proofs.CycleSearch
import WorkflowGraph.Proofs.Declarations
import WorkflowGraph.Proofs.Findings
set_option autoImplicit false

namespace WorkflowGraph

def Diagnostic.ListsUnreached (d : Diagnostic) : Prop :=
  "Nodes not reachable from Start: ".toList <+: d.message.toList

instance : DecidablePred Diagnostic.ListsUnreached := fun d =>
  inferInstanceAs (Decidable ("Nodes not reachable from Start: ".toList <+: d.message.toList))

theorem Finding.listsUnreached_iff (f : Finding) :
    f.diagnostic.ListsUnreached ↔ f.check = .reachability := by
  cases f <;> simp [Diagnostic.ListsUnreached, diagnostic, check]

namespace Graph

variable {g : Graph} {f next last : Frontier} {rounds : Nat} {start id : String}
  {schema : Option Schema}

inductive Searches (g : Graph) : Frontier → Nat → Frontier → Prop
  | done {f : Frontier} : g.round? f = none → Searches g f 0 f
  | round {f next last : Frontier} {rounds : Nat} :
    g.round? f = some next → Searches g next rounds last → Searches g f (rounds + 1) last

theorem exists_searches (g : Graph) (f : Frontier) :
    ∃ rounds last, g.Searches f rounds last ∧ rounds ≤ g.pending f ∧
      g.searchBreadth f = last.visited := by
  fun_induction g.searchBreadth f with
  | case1 f hround => exact ⟨0, f, .done hround, Nat.zero_le _, rfl⟩
  | case2 f next hround ih =>
    obtain ⟨rounds, last, hsearch, hle, hvisited⟩ := ih
    have hless := pending_lt_of_round? hround
    exact ⟨rounds + 1, last, .round hround hsearch, by omega, hvisited⟩

theorem pending_first_le (g : Graph) (start : String) :
    g.pending (.first start) ≤ g.edges.length + 1 :=
  Nat.add_le_add_right (List.length_filter_le _ _) 1

theorem mem_visited_foldl_visit {ids : List String} :
    id ∈ (ids.foldl Frontier.visit f).visited ↔ id ∈ f.visited ∨ id ∈ ids := by
  induction ids generalizing f with
  | nil => simp
  | cons target ids ih =>
    rw [List.foldl_cons, ih, Frontier.visit, List.mem_cons]
    split
    · rename_i hold
      constructor
      · exact Or.imp_right .inr
      · rintro (hid | rfl | hid)
        · exact .inl hid
        · exact .inl hold
        · exact .inr hid
    · rw [List.mem_cons]
      tauto

theorem mem_queue_foldl_visit {ids : List String} :
    id ∈ (ids.foldl Frontier.visit f).queue ↔ id ∈ f.queue ∨ id ∈ ids ∧ id ∉ f.visited := by
  induction ids generalizing f with
  | nil => simp
  | cons target ids ih =>
    rw [List.foldl_cons, ih, Frontier.visit, List.mem_cons]
    split
    · rename_i hold
      by_cases htarget : id = target
      · simp [htarget, hold]
      · simp [htarget]
    · rename_i hnew
      by_cases htarget : id = target
      · simp [htarget, hnew]
      · simp [htarget]

/-- What holds of the search from `start` between its rounds. -/
structure Explores (g : Graph) (start : String) (f : Frontier) : Prop where
  begins : start ∈ f.visited
  reached : ∀ id ∈ f.visited, Relation.ReflTransGen g.Leads start id
  queued : f.queue ⊆ f.visited
  followed : ∀ a ∈ f.visited, a ∉ f.queue → ∀ b, g.Leads a b → b ∈ f.visited

theorem explores_first (g : Graph) (start : String) : g.Explores start (.first start) where
  begins := List.mem_cons_self
  reached := by
    intro id hid
    obtain rfl := List.mem_singleton.1 hid
    exact .refl
  queued := List.Subset.refl _
  followed := fun a ha hqueue => absurd ha hqueue

theorem Explores.round (h : g.Explores start f) (hround : g.round? f = some next) :
    g.Explores start next := by
  unfold round? at hround
  split at hround
  · simp at hround
  · rename_i current queue hqueue
    obtain rfl := Option.some.inj hround
    have hcurrent : current ∈ f.visited := h.queued (hqueue ▸ List.mem_cons_self)
    refine ⟨?_, fun id hid => ?_, fun id hid => ?_, fun a ha hnot b hlead => ?_⟩
    · exact mem_visited_foldl_visit.2 (.inl h.begins)
    · rcases mem_visited_foldl_visit.1 hid with hid | hid
      · exact h.reached id hid
      · exact (h.reached current hcurrent).tail hid
    · rcases mem_queue_foldl_visit.1 hid with hid | ⟨hid, -⟩
      · exact mem_visited_foldl_visit.2 (.inl (h.queued (hqueue ▸ List.mem_cons_of_mem _ hid)))
      · exact mem_visited_foldl_visit.2 (.inr hid)
    · rw [mem_queue_foldl_visit, not_or] at hnot
      -- An id that is new is queued, so `a` was visited before; it is `current`, or was followed.
      have hold : a ∈ f.visited := by
        by_contra hnew
        rcases mem_visited_foldl_visit.1 ha with ha | ha
        · exact hnew ha
        · exact hnot.2 ⟨ha, hnew⟩
      by_cases heq : a = current
      · exact mem_visited_foldl_visit.2 (.inr (heq ▸ hlead))
      · refine mem_visited_foldl_visit.2 (.inl (h.followed a hold ?_ b hlead))
        rw [hqueue, List.mem_cons, not_or]
        exact ⟨heq, hnot.1⟩

theorem Searches.explores (hsearch : g.Searches f rounds last) (h : g.Explores start f) :
    g.Explores start last := by
  induction hsearch with
  | done => exact h
  | round hround _ ih => exact ih (h.round hround)

theorem Searches.queue_eq_nil (h : g.Searches f rounds last) : last.queue = [] := by
  induction h with
  | @done f hround =>
    unfold round? at hround
    split at hround
    · assumption
    · simp at hround
  | round _ _ ih => exact ih

theorem mem_reachable_iff : id ∈ g.reachable start ↔ Relation.ReflTransGen g.Leads start id := by
  obtain ⟨rounds, last, hsearch, -, hvisited⟩ := g.exists_searches (.first start)
  have hlast := hsearch.explores (g.explores_first start)
  rw [reachable, hvisited]
  constructor
  · exact hlast.reached id
  · intro hway
    induction hway with
    | refl => exact hlast.begins
    | tail _ hlead ih => exact hlast.followed _ ih (by simp [hsearch.queue_eq_nil]) _ hlead

instance (g : Graph) : DecidableRel (Relation.ReflTransGen g.Leads) := fun _ _ =>
  decidable_of_iff _ mem_reachable_iff

def unreached (g : Graph) (schema : Option Schema) : List String :=
  ((g.validate schema).filter (·.ListsUnreached)).flatMap (·.relatedIds)

theorem unreached_of_no_start (h : g.start? = none) : g.unreached schema = [] := by
  rw [unreached, filter_validate Finding.listsUnreached_iff, findingsOf, checkReachability, h]
  rfl

theorem unreached_of_start {n : Node} (h : g.start? = some n) :
    g.unreached schema = (g.nodes.map (·.id)).filter (· ∉ g.reachable n.id) := by
  rw [unreached, filter_validate Finding.listsUnreached_iff, findingsOf, checkReachability, h]
  dsimp only
  split
  · rename_i hempty
    exact (List.isEmpty_iff.1 hempty).symm
  · exact List.append_nil _

def outOfReach (g : Graph) (start : String) : List String :=
  (g.nodes.map (·.id)).filter fun id => ¬ Relation.ReflTransGen g.Leads start id

theorem checkReachability_of_start {n : Node} (h : g.start? = some n) :
    g.checkReachability =
      if g.outOfReach n.id = [] then [] else [.unreachable (g.outOfReach n.id)] := by
  have hids : g.outOfReach n.id = (g.nodes.map (·.id)).filter (· ∉ g.reachable n.id) :=
    List.filter_congr fun id _ => decide_eq_decide.2 (not_congr mem_reachable_iff.symm)
  rw [checkReachability, h, hids]
  simp only [List.isEmpty_iff]

/-- The nodes that are reported as not reachable are those to which no way leads from the first
start node, in order of declaration, and the search for them ends. -/
theorem unreached_reported (g : Graph) (schema : Option Schema) :
    (∀ start, g.IsFirstStart start →
      ((g.validate schema).filter (·.ListsUnreached)).map (·.relatedIds) =
        if g.outOfReach start.id = [] then [] else [g.outOfReach start.id]) ∧
    ((∀ n ∈ g.nodes, n.type ≠ .start) → ∀ d ∈ g.validate schema, ¬ d.ListsUnreached) ∧
    ∀ start, ∃ rounds last, g.Searches (.first start) rounds last ∧
      rounds ≤ g.edges.length + 1 ∧ g.reachable start = last.visited := by
  refine ⟨fun start hstart => ?_, fun hnone d hd hlists => ?_, fun start => ?_⟩
  · rw [filter_validate Finding.listsUnreached_iff, findingsOf,
      checkReachability_of_start (start?_eq_some_iff.2 hstart)]
    split <;> rfl
  · have hreports : d ∈ (g.validate schema).filter (·.ListsUnreached) :=
      List.mem_filter.2 ⟨hd, decide_eq_true hlists⟩
    rw [filter_validate Finding.listsUnreached_iff, findingsOf, checkReachability,
      start?_eq_none_iff.2 hnone] at hreports
    exact List.not_mem_nil hreports
  · obtain ⟨rounds, last, hsearch, hle, hvisited⟩ := g.exists_searches (.first start)
    exact ⟨rounds, last, hsearch, hle.trans (g.pending_first_le start), hvisited⟩

def scattered : Graph :=
  ⟨[⟨"y", .llm, {}⟩, ⟨"s", .start, {}⟩, ⟨"x", .start, {}⟩, ⟨"a", .tool, {}⟩, ⟨"x", .terminal, {}⟩],
    [⟨"1", "x", "y", none, none⟩, ⟨"2", "y", "x", none, none⟩, ⟨"3", "y", "s", none, none⟩,
      ⟨"4", "s", "gone", none, none⟩, ⟨"4", "s", "gone", none, none⟩,
      ⟨"5", "gone", "a", none, none⟩, ⟨"6", "a", "a", none, none⟩]⟩

theorem scattered_reported :
    scattered.IsFirstStart ⟨"s", .start, {}⟩ ∧
      ((scattered.validate none).filter (·.ListsUnreached)).map (·.relatedIds) =
        [["y", "x", "x"]] := by
  have hstart : scattered.IsFirstStart ⟨"s", .start, {}⟩ :=
    ⟨rfl, [⟨"y", .llm, {}⟩], _, rfl, by simp⟩
  have hids : scattered.outOfReach "s" = ["y", "x", "x"] := by decide +kernel
  have hreported := (unreached_reported scattered none).1 _ hstart
  rw [hids] at hreported
  exact ⟨hstart, hreported⟩

end Graph

end WorkflowGraph
