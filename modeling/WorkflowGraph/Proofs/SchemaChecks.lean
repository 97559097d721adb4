import Mathlib.Data.List.Induction
import WorkflowGraph.Proofs.Findings
import WorkflowGraph.Proofs.Mentions
set_option autoImplicit false

namespace WorkflowGraph

namespace Condition

/-- `kept` are the elements of `all` without repetition, in the order in which they first appear. -/
structure FirstAppearances {α : Type} [DecidableEq α] (all kept : List α) : Prop where
  nodup : kept.Nodup
  mem_iff : ∀ x, x ∈ kept ↔ x ∈ all
  ordered : kept.Pairwise fun x y => all.idxOf x < all.idxOf y

section Firsts

variable {α : Type} [DecidableEq α] {xs kept : List α} {x : α}

theorem firsts_concat (xs : List α) (x : α) :
    firsts (xs ++ [x]) = if x ∈ firsts xs then firsts xs else firsts xs ++ [x] := by
  unfold firsts
  rw [List.foldl_append]
  rfl

theorem firsts_concat_of_mem (h : x ∈ xs) : firsts (xs ++ [x]) = firsts xs := by
  rw [firsts_concat, if_pos (mem_firsts.2 h)]

theorem firsts_concat_of_notMem (h : x ∉ xs) : firsts (xs ++ [x]) = firsts xs ++ [x] := by
  rw [firsts_concat, if_neg fun hmem => h (mem_firsts.1 hmem)]

/-- What is there stays where it first appears. -/
theorem FirstAppearances.ordered_concat (h : FirstAppearances xs kept) (x : α) :
    kept.Pairwise fun y z => (xs ++ [x]).idxOf y < (xs ++ [x]).idxOf z := by
  refine h.ordered.imp_of_mem fun hy hz hlt => ?_
  rwa [List.idxOf_append_of_mem ((h.mem_iff _).1 hy), List.idxOf_append_of_mem ((h.mem_iff _).1 hz)]

theorem idxOf_concat_lt {y : α} (hy : y ∈ xs) (hx : x ∉ xs) :
    (xs ++ [x]).idxOf y < (xs ++ [x]).idxOf x := by
  rw [List.idxOf_append_of_mem hy, List.idxOf_append_of_notMem hx]
  exact Nat.lt_of_lt_of_le (List.idxOf_lt_length_of_mem hy) (Nat.le_add_right _ _)

theorem firstAppearances_firsts (xs : List α) : FirstAppearances xs (firsts xs) := by
  induction xs using List.reverseRecOn with
  | nil => exact ⟨List.nodup_nil, fun x => mem_firsts, .nil⟩
  | append_singleton xs x ih =>
    have hordered := ih.ordered_concat x
    by_cases hx : x ∈ xs
    · have hsame := firsts_concat_of_mem hx
      exact ⟨hsame.symm ▸ ih.nodup, fun y => mem_firsts, hsame.symm ▸ hordered⟩
    · have hdistinct : ∀ y ∈ firsts xs, ∀ z ∈ [x], y ≠ z := by
        rintro y hy z hz rfl
        exact hx (List.mem_singleton.1 hz ▸ mem_firsts.1 hy)
      have hbehind : ∀ y ∈ firsts xs, ∀ z ∈ [x], (xs ++ [x]).idxOf y < (xs ++ [x]).idxOf z := by
        intro y hy z hz
        obtain rfl := List.mem_singleton.1 hz
        exact idxOf_concat_lt (mem_firsts.1 hy) hx
      refine ⟨?_, fun y => mem_firsts, ?_⟩ <;> rw [firsts_concat_of_notMem hx]
      · exact List.pairwise_append.2 ⟨ih.nodup, List.pairwise_singleton _ x, hdistinct⟩
      · exact List.pairwise_append.2 ⟨hordered, List.pairwise_singleton _ x, hbehind⟩

end Firsts

def stateBracket : List Char := "state[".toList

variable {cs rest : List Char} {inWord : Bool} {taken : Nat} {condition : String}

theorem bracketField?_eq_none (h : ∀ tail, rest ≠ '[' :: tail) : bracketField? rest = none := by
  unfold bracketField?
  split
  · exact absurd rfl (h _)
  · rfl

theorem anyFieldAt?_eq (h : ¬ stateBracket <+: cs) (inWord : Bool) :
    mentionAt? anyField? inWord cs = mentionAt? dottedField? inWord cs := by
  unfold mentionAt?
  split
  · rfl
  · cases hstate : afterState? cs with
    | none => rfl
    | some rest =>
      have hbracket : ∀ tail, rest ≠ '[' :: tail := by
        rintro tail rfl
        exact h ⟨tail, (afterState?_eq_some_iff.1 hstate).symm⟩
      change anyField? rest = dottedField? rest
      rw [anyField?, bracketField?_eq_none hbracket, Option.or_none]

theorem scan_anyField? (h : ¬ stateBracket <:+: cs) :
    scan anyField? inWord taken cs = scan dottedField? inWord taken cs := by
  induction cs generalizing inWord taken with
  | nil => rw [scan, scan]
  | cons c rest ih =>
    have hrest : ¬ stateBracket <:+: rest := fun hin =>
      h (hin.trans (List.suffix_cons c rest).isInfix)
    have hprefix : ¬ stateBracket <+: c :: rest := fun hin => h hin.isInfix
    cases taken with
    | succ taken =>
      rw [scan_skip, scan_skip]
      exact ih hrest
    | zero =>
      have hat := anyFieldAt?_eq hprefix inWord
      cases hfield : mentionAt? dottedField? inWord (c :: rest) with
      | none =>
        rw [scan_none (hat.trans hfield), scan_none hfield]
        exact ih hrest
      | some found =>
        rw [scan_some (hat.trans hfield), scan_some hfield, ih hrest]

theorem referencedFields_eq (h : ¬ stateBracket <:+: condition.toList) :
    referencedFields condition = topLevelFields condition := by
  unfold referencedFields topLevelFields mentions
  rw [scan_anyField? h]

/-- A warning tells which field it is about. -/
theorem unlistedWarning_injective : Function.Injective unlistedWarning := by
  intro f g h
  have hchars := congrArg String.toList h
  simp only [unlistedWarning, String.toList_append, List.append_assoc] at hchars
  exact String.toList_inj.1 (List.append_cancel_right (List.append_cancel_left hchars))

def dottedMentions (condition : String) : List String :=
  (scan dottedField? false 0 condition.toList).map String.ofList

end Condition

namespace Graph

open Condition

theorem mem_validate_of_checkCondition {g : Graph} {schema : Schema} {edge : Edge} {f : Finding}
    (hedge : edge ∈ g.edges) (h : checkCondition schema edge = some f) :
    f.diagnostic ∈ g.validate (some schema) := by
  have hfields : f ∈ g.checkFields schema :=
    List.mem_append_left _ (List.mem_filterMap.2 ⟨edge, hedge, h⟩)
  exact List.mem_map_of_mem (List.mem_append_right _ hfields)

/-- For a condition without a field in brackets both checks look at the same fields, which are those
that it mentions with a dot in the order of their first mention. The check of a graph reports an
edge with this condition exactly if the check of the condition warns, and both name the same fields
in the same order. -/
theorem schema_checks_agree (condition : String)
    (hbracket : ¬ "state[".toList <:+: condition.toList) :
    referencedFields condition = topLevelFields condition ∧
    FirstAppearances (dottedMentions condition) (topLevelFields condition) ∧
    ∀ (schema : Schema) (edge : Edge), edge.condition = some condition →
      ∃ fields : List String,
        warnings condition schema =
          fields.map (fun f => "Field '" ++ f ++ "' is not defined in the state schema") ∧
        checkCondition schema edge =
          (if warnings condition schema = [] then none
            else some (.unlistedInCondition edge.id fields)) ∧
        ∀ g : Graph, edge ∈ g.edges → warnings condition schema ≠ [] →
          ⟨.invalidFieldRef, "Edge '" ++ edge.id
            ++ "' references fields missing from the state schema: " ++ ", ".intercalate fields,
            [edge.id]⟩ ∈ g.validate (some schema) := by
  have hsame := referencedFields_eq hbracket
  refine ⟨hsame, firstAppearances_firsts _, fun schema edge hcondition => ?_⟩
  have hcheck : checkCondition schema edge =
      if warnings condition schema = [] then none
        else some (.unlistedInCondition edge.id (unlistedFields condition schema)) := by
    unfold checkCondition
    rw [hcondition, Option.getD_some, hsame]
    simp only [warnings, List.map_eq_nil_iff, List.isEmpty_iff]
    rfl
  refine ⟨unlistedFields condition schema, rfl, hcheck, fun g hedge hwarnings => ?_⟩
  rw [if_neg hwarnings] at hcheck
  exact mem_validate_of_checkCondition hedge hcheck

/-- A condition that mentions `b` twice, and `a` only in a quoted text. -/
def quoting : String := "state.b > 1 && 'state.a' in state.tags && state.b < 9"

def tagSchema : Schema := ⟨[⟨"tags", .array, true, none, none⟩]⟩

def quotingEdge : Edge := ⟨"e", "s", "t", some quoting, none⟩

theorem quoting_schema_checks :
    topLevelFields quoting = ["b", "a", "tags"] ∧
      warnings quoting tagSchema =
        ["Field 'b' is not defined in the state schema",
          "Field 'a' is not defined in the state schema"] ∧
      checkCondition tagSchema quotingEdge = some (.unlistedInCondition "e" ["b", "a"]) ∧
      ⟨.invalidFieldRef, "Edge 'e' references fields missing from the state schema: b, a", ["e"]⟩ ∈
        (⟨[], [quotingEdge]⟩ : Graph).validate (some tagSchema) := by
  have hbracket : ¬ "state[".toList <:+: quoting.toList := by decide +kernel
  have hwarns : warnings quoting tagSchema = ["Field 'b' is not defined in the state schema",
      "Field 'a' is not defined in the state schema"] := by decide +kernel
  obtain ⟨-, -, hchecks⟩ := schema_checks_agree quoting hbracket
  obtain ⟨fields, hwarnings, hreport, hdiagnostic⟩ := hchecks tagSchema quotingEdge rfl
  obtain rfl : fields = ["b", "a"] :=
    List.map_injective_iff.2 unlistedWarning_injective (hwarnings.symm.trans hwarns)
  have hsome : warnings quoting tagSchema ≠ [] := hwarns ▸ List.cons_ne_nil _ _
  rw [if_neg hsome] at hreport
  exact ⟨by decide +kernel, hwarns, hreport,
    hdiagnostic ⟨[], [quotingEdge]⟩ List.mem_cons_self hsome⟩

end Graph

end WorkflowGraph
