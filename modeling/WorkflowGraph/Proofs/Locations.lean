import WorkflowGraph.Proofs.Decimals
import WorkflowGraph.State
set_option autoImplicit false

namespace WorkflowGraph

namespace Json

inductive Selector where
  | key (name : String)
  | index (i : Fin wordLimit)

def Selector.segment : Selector → String
  | .key name => name
  | .index i => toString i.val

def select? : Json → Selector → Option Json
  | .object members, .key name => Fields.find? name members
  | .array items, .index i => items[i.val]?
  | _, _ => none

def at? (v : Json) (selectors : List Selector) : Option Json := selectors.foldlM select? v

/-- A segment is read as a key in an object and as a number in an array. -/
inductive Reads (segment : String) : Json → Selector → Prop
  | key (members : List (String × Json)) : Reads segment (.object members) (.key segment)
  | index (items : List Json) {i : Fin wordLimit} (hi : IsWordNumeral segment.toList i) :
      Reads segment (.array items) (.index i)

/-- The selectors that segments name. Each segment is read in the value that those before it lead
to. -/
inductive Names : Json → List String → List Selector → Prop
  | nil (v : Json) : Names v [] []
  | cons {v w : Json} {segment : String} {selector : Selector} {segments : List String}
      {selectors : List Selector} (hread : v.Reads segment selector)
      (hselect : v.select? selector = some w) (hrest : w.Names segments selectors) :
      Names v (segment :: segments) (selector :: selectors)

variable {v w u : Json} {segment : String} {selector : Selector} {segments : List String}
  {selectors : List Selector}

theorem at?_cons (v : Json) (selector : Selector) (selectors : List Selector) :
    v.at? (selector :: selectors) = (v.select? selector).bind (·.at? selectors) :=
  List.foldlM_cons

theorem descend_cons (v : Json) (segment : String) (segments : List String) :
    v.descend (segment :: segments) = (v.child? segment).bind (·.descend segments) :=
  List.foldlM_cons

theorem child?_eq_some_iff :
    v.child? segment = some w ↔
      ∃ selector, v.Reads segment selector ∧ v.select? selector = some w := by
  cases v with
  | object members =>
    constructor
    · exact fun h => ⟨.key segment, .key members, h⟩
    · rintro ⟨_, ⟨⟩, h⟩
      exact h
  | array items =>
    rw [child?, Option.bind_eq_some_iff]
    simp only [readWord64?_eq_some_iff]
    constructor
    · rintro ⟨i, hi, hitem⟩
      have hlimit : i < wordLimit := hi.choose_spec.2.2
      exact ⟨.index ⟨i, hlimit⟩, .index items hi, hitem⟩
    · rintro ⟨selector, hread, hitem⟩
      cases hread with
      | index _ hi => exact ⟨_, hi, hitem⟩
  | null | bool | number | string =>
    constructor
    · intro h
      simp [child?] at h
    · rintro ⟨_, ⟨⟩, _⟩

theorem Reads.of_select? (h : v.select? selector = some w) : v.Reads selector.segment selector := by
  unfold select? at h
  split at h
  · exact .key _
  · rename_i items i
    exact .index items (isWordNumeral_toString i.isLt)
  · simp at h

/-- Following the segments of a path is going where they name. -/
theorem descend_eq_some_iff :
    v.descend segments = some u ↔
      ∃ selectors, v.Names segments selectors ∧ v.at? selectors = some u := by
  induction segments generalizing v with
  | nil =>
    constructor
    · exact fun h => ⟨[], .nil v, h⟩
    · rintro ⟨_, ⟨⟩, h⟩
      exact h
  | cons segment segments ih =>
    rw [descend_cons, Option.bind_eq_some_iff]
    simp only [child?_eq_some_iff, ih]
    constructor
    · rintro ⟨w, ⟨selector, hread, hselect⟩, selectors, hnames, hat⟩
      refine ⟨selector :: selectors, .cons hread hselect hnames, ?_⟩
      rw [at?_cons, hselect]
      exact hat
    · rintro ⟨selectors, hnames, hat⟩
      cases hnames with
      | cons hread hselect hrest =>
        rw [at?_cons, hselect] at hat
        exact ⟨_, ⟨_, hread, hselect⟩, _, hrest, hat⟩

theorem Names.exists_at? (h : v.Names segments selectors) : ∃ u, v.at? selectors = some u := by
  induction h with
  | nil v => exact ⟨v, rfl⟩
  | cons _ hselect _ ih =>
    obtain ⟨u, hu⟩ := ih
    exact ⟨u, by rw [at?_cons, hselect]; exact hu⟩

theorem Names.of_at? (h : v.at? selectors = some u) :
    v.Names (selectors.map Selector.segment) selectors := by
  induction selectors generalizing v with
  | nil => exact .nil v
  | cons selector selectors ih =>
    rw [at?_cons] at h
    obtain ⟨w, hselect, hat⟩ := Option.bind_eq_some_iff.1 h
    exact .cons (.of_select? hselect) hselect (ih hat)

end Json

structure Location where
  key : String
  selectors : List Json.Selector

namespace Location

def segments (l : Location) : List String := l.key :: l.selectors.map Json.Selector.segment

def path (l : Location) : String := String.ofList (Text.join '.' (l.segments.map String.toList))

def DotFree (l : Location) : Prop :=
  '.' ∉ l.key.toList ∧ ∀ name, .key name ∈ l.selectors → '.' ∉ name.toList

theorem DotFree.dot_notMem {l : Location} (h : l.DotFree) :
    ∀ segment ∈ l.segments, '.' ∉ segment.toList := by
  intro segment hsegment
  rcases List.mem_cons.1 hsegment with rfl | hsegment
  · exact h.1
  · obtain ⟨selector, hselector, rfl⟩ := List.mem_map.1 hsegment
    cases selector with
    | key name => exact h.2 name hselector
    | index i => exact dot_notMem_toString i.val

theorem DotFree.segments_path {l : Location} (h : l.DotFree) :
    Text.segments l.path = l.segments := by
  have hpieces : ∀ piece ∈ l.segments.map String.toList, '.' ∉ piece := by
    intro piece hpiece
    obtain ⟨segment, hsegment, rfl⟩ := List.mem_map.1 hpiece
    exact h.dot_notMem segment hsegment
  rw [Text.segments, path, String.toList_ofList, Text.pieces_join (by simp [segments]) hpieces,
    List.map_map]
  exact (List.map_congr_left fun s _ => String.ofList_toList).trans (List.map_id _)

end Location

namespace State

variable {s : State} {path : String} {v : Json} {l : Location}

def at? (s : State) (l : Location) : Option Json := (s.get? l.key).bind (·.at? l.selectors)

def Names (s : State) (path : String) (l : Location) : Prop :=
  ∃ v rest, Text.segments path = l.key :: rest ∧ s.get? l.key = some v ∧ v.Names rest l.selectors

theorem getPath_of_segments {first : String} {rest : List String}
    (h : Text.segments path = first :: rest) :
    s.getPath path = (s.get? first).bind (·.descend rest) := by
  rw [getPath, h, follow]

theorem exists_segments (path : String) : ∃ first rest, Text.segments path = first :: rest :=
  List.exists_cons_of_ne_nil (by simp [Text.segments, Text.pieces_ne_nil])

theorem getPath_eq_some_iff :
    s.getPath path = some v ↔ ∃ l, s.Names path l ∧ s.at? l = some v := by
  obtain ⟨first, rest, hsegments⟩ := exists_segments path
  rw [getPath_of_segments hsegments, Option.bind_eq_some_iff]
  simp only [Json.descend_eq_some_iff]
  constructor
  · rintro ⟨w, hget, selectors, hnames, hat⟩
    refine ⟨⟨first, selectors⟩, ⟨w, rest, hsegments, hget, hnames⟩, ?_⟩
    rw [at?, hget]
    exact hat
  · rintro ⟨l, ⟨w, rest', hsegments', hget, hnames⟩, hat⟩
    obtain ⟨rfl, rfl⟩ := List.cons.inj (hsegments.symm.trans hsegments')
    rw [at?, hget] at hat
    exact ⟨w, hget, l.selectors, hnames, hat⟩

theorem Names.exists_at? (h : s.Names path l) : ∃ v, s.at? l = some v := by
  obtain ⟨w, rest, -, hget, hnames⟩ := h
  obtain ⟨u, hu⟩ := hnames.exists_at?
  exact ⟨u, by rw [State.at?, hget]; exact hu⟩

theorem getPath_eq_none_iff : s.getPath path = none ↔ ∀ l, ¬ s.Names path l := by
  constructor
  · intro hnone l hnames
    obtain ⟨v, hat⟩ := hnames.exists_at?
    simp [getPath_eq_some_iff.2 ⟨l, hnames, hat⟩] at hnone
  · intro h
    refine Option.eq_none_iff_forall_ne_some.2 fun v hv => ?_
    obtain ⟨l, hnames, -⟩ := getPath_eq_some_iff.1 hv
    exact h l hnames

theorem names_path (hl : l.DotFree) (h : s.at? l = some v) : s.Names l.path l := by
  obtain ⟨w, hget, hat⟩ := Option.bind_eq_some_iff.1 h
  exact ⟨w, _, hl.segments_path, hget, .of_at? hat⟩

/-- The path of a location leads to the value there; any path leads to the value at the location
that it names, and to none if it names none. An insertion decides on the paths that start with its
key, by the value alone, and leaves the others as they are. -/
theorem getPath_locates (s : State) :
    (∀ (l : Location) (v : Json), l.DotFree → s.at? l = some v → s.getPath l.path = some v) ∧
    (∀ (path : String) (v : Json),
      s.getPath path = some v ↔ ∃ l, s.Names path l ∧ s.at? l = some v) ∧
    (∀ path, s.getPath path = none ↔ ∀ l, ¬ s.Names path l) ∧
    ∀ (key : String) (v : Json) (path first : String) (rest : List String),
      Text.segments path = first :: rest →
      (first ≠ key → State.getPath (s.insert key v) path = s.getPath path) ∧
      (first = key → ∀ u, State.getPath (s.insert key v) path = some u ↔
        ∃ selectors, v.Names rest selectors ∧ v.at? selectors = some u) := by
  refine ⟨fun l v hl h => getPath_eq_some_iff.2 ⟨l, names_path hl h, h⟩,
    fun path v => getPath_eq_some_iff, fun path => getPath_eq_none_iff, ?_⟩
  intro key v path first rest hsegments
  rw [getPath, getPath, hsegments, follow_insert]
  constructor
  · intro hne
    rw [if_neg (Ne.symm hne)]
  · rintro rfl u
    rw [if_pos rfl, Json.descend_eq_some_iff]

def nested : State :=
  Fields.ofList [("items", .array [.null, Json.ofMembers [("", .array [.bool true])]])]

def innermost : Location := ⟨"items", [.index ⟨1, by decide⟩, .key "", .index ⟨0, by decide⟩]⟩

theorem nested_getPath :
    nested.getPath "items.1..0" = some (.bool true) ∧
      State.getPath (nested.insert "items" (.string "none")) "items.1" = none ∧
      State.getPath (nested.insert "item" (.string "none")) "items.1..0" = some (.bool true) := by
  have hdotFree : innermost.DotFree := ⟨by decide, by simp [innermost]⟩
  have hspelled : innermost.path = "items.1..0" := by decide +kernel
  have hheld : nested.at? innermost = some (.bool true) := rfl
  have hpath : nested.getPath "items.1..0" = some (.bool true) :=
    hspelled ▸ (getPath_locates nested).1 innermost (.bool true) hdotFree hheld
  have hinsert := (getPath_locates nested).2.2.2
  refine ⟨hpath, ?_, ?_⟩
  · refine Option.eq_none_iff_forall_ne_some.2 fun u hu => ?_
    obtain ⟨selectors, hnames, -⟩ :=
      ((hinsert "items" (.string "none") "items.1" "items" ["1"] (by decide +kernel)).2 rfl u).1 hu
    cases hnames with
    | cons hread => cases hread
  · rw [(hinsert "item" (.string "none") "items.1..0" "items" ["1", "", "0"]
      (by decide +kernel)).1 (by decide)]
    exact hpath

end State

end WorkflowGraph
