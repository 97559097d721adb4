import Mathlib.Data.List.Forall2
import Mathlib.Data.List.Nodup
import WorkflowGraph.Schema
set_option autoImplicit false

namespace WorkflowGraph

namespace FieldDef

variable {f : FieldDef} {s : State} {p q : StateProblem} {v : Json}

/-- The ways in which a state can violate the definition of a field. -/
inductive Violation (f : FieldDef) (s : State) : StateProblem → Prop
  | missing (habsent : s.get? f.key = none) (hrequired : f.required = true) :
      Violation f s (.missing f.key)
  | wrongType {v : Json} (hvalue : s.get? f.key = some v) (htype : f.type.accepts v = false) :
      Violation f s (.wrongType f.key f.type v.kind)
  | notListed {text : String} {allowed : List String}
      (hvalue : s.get? f.key = some (.string text)) (htype : f.type = .enum)
      (hallowed : f.enumValues = some allowed) (htext : text ∉ allowed) :
      Violation f s (.notListed f.key text allowed)

def Admits (f : FieldDef) (v : Json) : Prop :=
  f.type.accepts v = true ∧
    ∀ allowed, f.type = .enum → f.enumValues = some allowed → ∃ text ∈ allowed, v = .string text

theorem violation_of_problem? (h : f.problem? s = some p) : f.Violation s p := by
  unfold problem? at h
  split at h
  · rename_i habsent
    split at h
    · rename_i hrequired
      obtain rfl := Option.some.inj h
      exact .missing habsent hrequired
    · simp at h
  · rename_i v hvalue
    split at h
    · rename_i htype
      obtain rfl := Option.some.inj h
      exact .wrongType hvalue (by simpa using htype)
    · split at h
      · rename_i allowed text htype hallowed haccepts
        split at h
        · simp at h
        · rename_i htext
          obtain rfl := Option.some.inj h
          exact .notListed hvalue htype hallowed htext
      · simp at h

theorem Violation.problem? (h : f.Violation s p) : f.problem? s = some p := by
  unfold FieldDef.problem?
  cases h with
  | missing habsent hrequired => rw [habsent, hrequired]; rfl
  | wrongType hvalue htype => simp [hvalue, htype]
  | notListed hvalue htype hallowed htext =>
    simp [hvalue, htype, hallowed, htext, FieldType.accepts]

theorem problem?_eq_some_iff : f.problem? s = some p ↔ f.Violation s p :=
  ⟨violation_of_problem?, Violation.problem?⟩

theorem isSome_problem?_iff : (f.problem? s).isSome = true ↔ ∃ p, f.Violation s p := by
  simp only [Option.isSome_iff_exists, problem?_eq_some_iff]

instance (f : FieldDef) (s : State) : Decidable (∃ p, f.Violation s p) :=
  decidable_of_iff _ isSome_problem?_iff

theorem Admits.not_violation (h : f.Admits v) (hvalue : s.get? f.key = some v) :
    ¬ f.Violation s p := by
  obtain ⟨haccepts, hlisted⟩ := h
  intro hviolation
  cases hviolation with
  | missing habsent => simp [habsent] at hvalue
  | wrongType hvalue' htype =>
    obtain rfl := Option.some.inj (hvalue.symm.trans hvalue')
    simp [haccepts] at htype
  | @notListed text allowed hvalue' htype hallowed htext =>
    obtain ⟨other, hmem, rfl⟩ := hlisted allowed htype hallowed
    obtain rfl := Json.string.inj (Option.some.inj (hvalue.symm.trans hvalue'))
    exact htext hmem

theorem problem?_of_default (hvalue : s.get? f.key = f.default)
    (hdefault : ∀ v, f.default = some v → f.Admits v) :
    f.problem? s = if f.required && f.default.isNone then some (.missing f.key) else none := by
  cases hv : f.default with
  | none =>
    rw [hv] at hvalue
    rw [FieldDef.problem?, hvalue]
    simp
  | some v =>
    rw [hv] at hvalue
    have hnone : f.problem? s = none := Option.eq_none_iff_forall_ne_some.2 fun p hp =>
      (hdefault v hv).not_violation hvalue (violation_of_problem? hp)
    simpa using hnone

end FieldDef

namespace Schema

variable {schema : Schema} {f : FieldDef}

theorem forall₂_checkState (fields : List FieldDef) (s : State) :
    List.Forall₂ (fun f p => f.Violation s p) (fields.filter fun f => ∃ p, f.Violation s p)
      (fields.filterMap (·.problem? s)) := by
  induction fields with
  | nil => exact .nil
  | cons f fields ih =>
    cases hp : f.problem? s with
    | none =>
      have hnot : ¬ ∃ p, f.Violation s p := by
        rw [← FieldDef.isSome_problem?_iff, hp]
        simp
      rwa [List.filter_cons_of_neg (by simpa using hnot),
        List.filterMap_cons_none (f := fun f : FieldDef => f.problem? s) hp]
    | some p =>
      have hviolation := FieldDef.violation_of_problem? hp
      have hsome : ∃ p, f.Violation s p := ⟨p, hviolation⟩
      rw [List.filter_cons_of_pos (by simpa using hsome),
        List.filterMap_cons_some (f := fun f : FieldDef => f.problem? s) hp]
      exact .cons hviolation ih

def defaults (schema : Schema) : List (String × Json) :=
  schema.fields.filterMap fun f => f.default.map fun v => (f.key, v)

theorem mem_defaults {key : String} {v : Json} :
    (key, v) ∈ schema.defaults ↔ ∃ f ∈ schema.fields, f.default = some v ∧ f.key = key := by
  simp [defaults]

theorem nodup_defaults (h : schema.keys.Nodup) : (schema.defaults.map (·.1)).Nodup := by
  refine h.sublist ?_
  have hnames : schema.defaults.map (·.1) =
      schema.fields.filterMap fun f => if f.default.isSome then some f.key else none := by
    rw [defaults, List.map_filterMap]
    refine List.filterMap_congr fun f _ => ?_
    cases f.default <;> rfl
  rw [hnames, keys, ← List.filterMap_eq_map, ← List.filterMap_filter]
  exact List.filter_sublist.filterMap _

theorem get?_initialState (h : schema.keys.Nodup) (hf : f ∈ schema.fields) :
    schema.initialState.get? f.key = f.default := by
  refine Option.ext fun v => ?_
  change (Fields.ofList schema.defaults).get? f.key = some v ↔ _
  rw [Fields.get?_ofList_of_nodup (nodup_defaults h),
    Fields.find?_eq_some_iff_of_nodup (nodup_defaults h), mem_defaults]
  constructor
  · rintro ⟨g, hg, hdefault, hkey⟩
    obtain rfl := List.inj_on_of_nodup_map h hg hf hkey
    exact hdefault
  · exact fun hdefault => ⟨f, hf, hdefault, rfl⟩

/-- Each violated field is reported once, in the order of the schema, and no other. With each key
defined once and with defaults that their fields admit, the state that holds the defaults lacks the
required fields without one and is as the schema asks otherwise. -/
theorem checkState_exact (schema : Schema) :
    (∀ s, List.Forall₂ (fun f p => f.Violation s p)
      (schema.fields.filter fun f => ∃ p, f.Violation s p) (schema.checkState s)) ∧
    (schema.keys.Nodup → (∀ f ∈ schema.fields, ∀ v, f.default = some v → f.Admits v) →
      schema.checkState schema.initialState =
        (schema.fields.filter fun f => f.required && f.default.isNone).map fun f =>
          .missing f.key) := by
  refine ⟨forall₂_checkState schema.fields, fun hkeys hdefaults => ?_⟩
  have hproblems : schema.checkState schema.initialState =
      schema.fields.filterMap fun f =>
        if f.required && f.default.isNone then some (.missing f.key) else none :=
    List.filterMap_congr fun f hf =>
      FieldDef.problem?_of_default (get?_initialState hkeys hf) (hdefaults f hf)
  rw [hproblems, ← List.filterMap_eq_map, List.filterMap_filter]
  rfl

def ticket : Schema :=
  ⟨[⟨"title", .string, true, none, none⟩,
    ⟨"status", .enum, true, some (.string "open"), some ["open", "closed"]⟩,
    ⟨"votes", .number, false, none, none⟩, ⟨"tags", .array, true, none, none⟩]⟩

theorem ticket_checkState :
    ticket.checkState ticket.initialState = [.missing "title", .missing "tags"] := by
  have hdefaults : ∀ f ∈ ticket.fields, ∀ v, f.default = some v → f.Admits v := by
    simp [ticket, FieldDef.Admits, FieldType.accepts]
  exact (checkState_exact ticket).2 (by decide) hdefaults

end Schema

end WorkflowGraph
