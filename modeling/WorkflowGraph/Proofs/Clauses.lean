import WorkflowGraph.Proofs.Connectives
import Mathlib.Data.List.Forall2
set_option autoImplicit false

namespace WorkflowGraph.Condition

open Text (isBlank Visible)

namespace Expr

def conjunction : List Expr → Expr
  | [] => .always
  | [e] => e
  | e :: next :: more => .and e (conjunction (next :: more))

def disjunction : List Expr → Expr
  | [] => .unsupported ""
  | [e] => e
  | e :: next :: more => .or e (disjunction (next :: more))

theorem eval_conjunction (es : List Expr) (s : State) :
    (conjunction es).eval s = es.all (·.eval s) := by
  induction es with
  | nil => rfl
  | cons e es ih =>
    cases es with
    | nil => simp [conjunction]
    | cons next more => rw [conjunction, eval, ih, List.all_cons, List.all_cons, List.all_cons]

theorem eval_disjunction (es : List Expr) (s : State) :
    (disjunction es).eval s = es.any (·.eval s) := by
  induction es with
  | nil => rfl
  | cons e es ih =>
    cases es with
    | nil => simp [disjunction]
    | cons next more => rw [disjunction, eval, ih, List.any_cons, List.any_cons, List.any_cons]

end Expr

/-- A text that is not blank, in which every quote closes, with no `&` and no `|` outside of quotes
and neither `&&` nor `||` within them. -/
def IsClause (clause : String) : Prop :=
  Visible clause.toList ∧
    Closed (fun c => c ≠ '&' ∧ c ≠ '|')
      (fun content => ¬ ['&', '&'] <:+: content ∧ ¬ ['|', '|'] <:+: content) clause.toList

inductive Joined (connective : String) : List String → String → Prop
  | single (part : String) : Joined connective [part] part
  | cons {part : String} {parts : List String} {text : String} (before after : String) :
      (∀ c ∈ before.toList, isBlank c) → (∀ c ∈ after.toList, isBlank c) →
      Joined connective parts text →
      Joined connective (part :: parts) (part ++ before ++ connective ++ after ++ text)

theorem Joined.ne_nil {connective : String} {parts : List String} {text : String}
    (h : Joined connective parts text) : parts ≠ [] := by
  cases h <;> simp

variable {clause part text : String} {parts : List String}

theorem IsClause.safeFrom_and (h : IsClause clause) : SafeFrom '&' clause.toList :=
  h.2.mono (fun _ hc => hc.1) fun _ hcontent => hcontent.1

theorem IsClause.safeFrom_or (h : IsClause clause) : SafeFrom '|' clause.toList :=
  h.2.mono (fun _ hc => hc.2) fun _ hcontent => hcontent.2

theorem IsClause.negated (h : IsClause clause) : IsClause ("!" ++ clause) := by
  have htoList : ("!" ++ clause).toList = '!' :: clause.toList := by simp
  rw [IsClause, htoList]
  exact ⟨h.1.append_left ['!'], .char (by decide) (by decide) h.2⟩

theorem parse_negated (h : IsClause clause) : parse ("!" ++ clause) = .not (parse clause) := by
  have htoList : ("!" ++ clause).toList = '!' :: clause.toList := by simp
  have hnegated := h.negated
  have hand := hnegated.safeFrom_and.no_pair (by decide)
  have hor := hnegated.safeFrom_or.no_pair (by decide)
  rw [htoList] at hand hor
  rw [parse, htoList, parseChars_not h.1 hand hor]
  rfl

theorem safeFrom_of_blank {d : Char} (hd : isBlank d = false) {xs : List Char}
    (h : ∀ c ∈ xs, isBlank c) : SafeFrom d xs := by
  refine .of_blank h ?_
  rintro c hc rfl
  rw [hc] at hd
  simp at hd

theorem parse_and (before after : String) (hsafe : SafeFrom '&' part.toList)
    (hpart : Visible part.toList) (htext : Visible text.toList)
    (hbefore : ∀ c ∈ before.toList, isBlank c) (hafter : ∀ c ∈ after.toList, isBlank c) :
    parse (part ++ before ++ "&&" ++ after ++ text) = .and (parse part) (parse text) := by
  have hsafe' : SafeFrom '&' (part.toList ++ before.toList) :=
    hsafe.append (safeFrom_of_blank (by decide) hbefore)
  have htoList : (part ++ before ++ "&&" ++ after ++ text).toList =
      (part.toList ++ before.toList) ++ '&' :: '&' :: (after.toList ++ text.toList) := by simp
  rw [parse, htoList, parseChars_and hsafe' (hpart.append_right _) (htext.append_left _),
    parseChars_congr (Text.trim_append_of_blank _ hbefore),
    parseChars_congr (Text.trim_append_of_blank_left hafter _)]
  rfl

theorem parse_or (before after : String) (hsafe : SafeFrom '|' part.toList)
    (hpart : Visible part.toList) (htext : Visible text.toList)
    (hbefore : ∀ c ∈ before.toList, isBlank c) (hafter : ∀ c ∈ after.toList, isBlank c)
    (hand : ¬ ['&', '&'] <:+: (part ++ before ++ "||" ++ after ++ text).toList) :
    parse (part ++ before ++ "||" ++ after ++ text) = .or (parse part) (parse text) := by
  have hsafe' : SafeFrom '|' (part.toList ++ before.toList) :=
    hsafe.append (safeFrom_of_blank (by decide) hbefore)
  have htoList : (part ++ before ++ "||" ++ after ++ text).toList =
      (part.toList ++ before.toList) ++ '|' :: '|' :: (after.toList ++ text.toList) := by simp
  rw [htoList] at hand
  rw [parse, htoList, parseChars_or hsafe' (hpart.append_right _) (htext.append_left _) hand,
    parseChars_congr (Text.trim_append_of_blank _ hbefore),
    parseChars_congr (Text.trim_append_of_blank_left hafter _)]
  rfl

theorem Joined.visible {connective : String} (h : Joined connective parts text)
    (hparts : ∀ part ∈ parts, Visible part.toList) : Visible text.toList := by
  induction h with
  | single part => exact hparts part List.mem_cons_self
  | cons before after _ _ _ ih =>
    rw [String.toList_append]
    exact (ih fun part hpart => hparts part (List.mem_cons_of_mem _ hpart)).append_left _

theorem Joined.safeFrom_and (h : Joined "||" parts text)
    (hparts : ∀ part ∈ parts, IsClause part) : SafeFrom '&' text.toList := by
  induction h with
  | single part => exact (hparts part List.mem_cons_self).safeFrom_and
  | @cons part parts text before after hbefore hafter _ ih =>
    have hrest := ih fun part hpart => hparts part (List.mem_cons_of_mem _ hpart)
    have hor : SafeFrom '&' "||".toList := .of_plain (by simp [isQuote]) (by simp)
    simp only [String.toList_append]
    exact ((((hparts part List.mem_cons_self).safeFrom_and.append
      (safeFrom_of_blank (by decide) hbefore)).append hor).append
        (safeFrom_of_blank (by decide) hafter)).append hrest

theorem parse_group (h : Joined "||" parts text) (hparts : ∀ part ∈ parts, IsClause part) :
    parse text = .disjunction (parts.map parse) := by
  induction h with
  | single part => rfl
  | @cons part parts text before after hbefore hafter hjoined ih =>
    have hrest : ∀ part ∈ parts, IsClause part :=
      fun part hpart => hparts part (List.mem_cons_of_mem _ hpart)
    have hclause := hparts part List.mem_cons_self
    have hsafe := (Joined.cons before after hbefore hafter hjoined).safeFrom_and hparts
    rw [parse_or before after hclause.safeFrom_or hclause.1
      (hjoined.visible fun part hpart => (hrest part hpart).1) hbefore hafter
      (hsafe.no_pair (by decide)), ih hrest]
    cases parts with
    | nil => exact absurd rfl hjoined.ne_nil
    | cons next more => rfl

theorem visible_of_groups {groups : List (List String)} {texts : List String}
    (hgroups : List.Forall₂ (Joined "||") groups texts)
    (hclauses : ∀ group ∈ groups, ∀ clause ∈ group, IsClause clause) :
    ∀ text ∈ texts, Visible text.toList := by
  induction hgroups with
  | nil => simp
  | @cons group text groups texts hjoined _ ih =>
    intro part hpart
    rcases List.mem_cons.1 hpart with rfl | hpart
    · exact hjoined.visible fun clause hclause =>
        (hclauses group List.mem_cons_self clause hclause).1
    · exact ih (fun group hgroup => hclauses group (List.mem_cons_of_mem _ hgroup)) part hpart

theorem parse_conjunction {groups : List (List String)} {texts : List String}
    (hgroups : List.Forall₂ (Joined "||") groups texts) (htext : Joined "&&" texts text)
    (hclauses : ∀ group ∈ groups, ∀ clause ∈ group, IsClause clause) :
    parse text = .conjunction (groups.map fun group => .disjunction (group.map parse)) := by
  induction htext generalizing groups with
  | single part =>
    cases hgroups with
    | cons hgroup hnone =>
      cases hnone
      exact parse_group hgroup (hclauses _ List.mem_cons_self)
  | @cons part parts text before after hbefore hafter hjoined ih =>
    cases hgroups with
    | @cons group _ groups _ hgroup hgroups =>
      have hrest : ∀ group ∈ groups, ∀ clause ∈ group, IsClause clause :=
        fun group hmem => hclauses group (List.mem_cons_of_mem _ hmem)
      have hfirst := hclauses group List.mem_cons_self
      rw [parse_and before after (hgroup.safeFrom_and hfirst)
        (hgroup.visible fun clause hclause => (hfirst clause hclause).1)
        (hjoined.visible (visible_of_groups hgroups hrest)) hbefore hafter,
        parse_group hgroup hfirst, ih hgroups hrest]
      cases hgroups with
      | nil => exact absurd rfl hjoined.ne_nil
      | cons => rfl

/-- `!` binds tighter than `||`, which binds tighter than `&&`. -/
theorem parse_groups :
    (∀ (groups : List (List String)) (texts : List String) (text : String),
      (∀ group ∈ groups, ∀ clause ∈ group, IsClause clause) →
      List.Forall₂ (Joined "||") groups texts → Joined "&&" texts text →
        parse text = .conjunction (groups.map fun group => .disjunction (group.map parse)) ∧
        ∀ s, evaluate text s =
          groups.all fun group => group.any fun clause => evaluate clause s) ∧
    ∀ clause, IsClause clause → IsClause ("!" ++ clause) ∧
      parse ("!" ++ clause) = .not (parse clause) ∧
      ∀ s, evaluate ("!" ++ clause) s = !evaluate clause s := by
  refine ⟨fun groups texts text hclauses hgroups htext => ?_, fun clause hclause => ?_⟩
  · have hparse := parse_conjunction hgroups htext hclauses
    refine ⟨hparse, fun s => ?_⟩
    rw [evaluate, hparse, Expr.eval_conjunction, List.all_map]
    congr 1
    funext group
    rw [Function.comp_apply, Expr.eval_disjunction, List.any_map]
    rfl
  · have hparse := parse_negated hclause
    refine ⟨hclause.negated, hparse, fun s => ?_⟩
    rw [evaluate, hparse, Expr.eval, evaluate]

theorem parse_two_groups :
    parse "state.a == 1||!state.b > 2 && state.c == 'x&y|z'" =
      .and (.or (parse "state.a == 1") (.not (parse "state.b > 2")))
        (parse "state.c == 'x&y|z'") := by
  have ha : IsClause "state.a == 1" :=
    ⟨⟨'s', by decide, by decide⟩, .of_plain (by simp [isQuote]) (by simp)⟩
  have hb : IsClause "state.b > 2" :=
    ⟨⟨'s', by decide, by decide⟩, .of_plain (by simp [isQuote]) (by simp)⟩
  have hliteral : Closed (fun c => c ≠ '&' ∧ c ≠ '|')
      (fun content => ¬ ['&', '&'] <:+: content ∧ ¬ ['|', '|'] <:+: content)
      ('\'' :: (['x', '&', 'y', '|', 'z'] ++ '\'' :: [])) :=
    .quoted (by decide) (by decide) (by decide) .nil
  have hplain : Closed (fun c => c ≠ '&' ∧ c ≠ '|')
      (fun content => ¬ ['&', '&'] <:+: content ∧ ¬ ['|', '|'] <:+: content)
      "state.c == ".toList := .of_plain (by simp [isQuote]) (by simp)
  have hc : IsClause "state.c == 'x&y|z'" :=
    ⟨⟨'s', by decide, by decide⟩, hplain.append hliteral⟩
  obtain ⟨hnb, hnot, -⟩ := parse_groups.2 "state.b > 2" hb
  have hfirst : Joined "||" ["state.a == 1", "!state.b > 2"] "state.a == 1||!state.b > 2" :=
    .cons "" "" (by simp) (by simp) (.single _)
  have htext : Joined "&&" ["state.a == 1||!state.b > 2", "state.c == 'x&y|z'"]
      "state.a == 1||!state.b > 2 && state.c == 'x&y|z'" :=
    .cons " " " " (by simp [isBlank]) (by simp [isBlank]) (.single _)
  have hclauses : ∀ group ∈ [["state.a == 1", "!state.b > 2"], ["state.c == 'x&y|z'"]],
      ∀ clause ∈ group, IsClause clause := by
    simpa using ⟨⟨ha, hnb⟩, hc⟩
  have hparse := (parse_groups.1 _ _ _ hclauses (.cons hfirst (.cons (.single _) .nil)) htext).1
  rw [hparse, ← hnot]
  rfl

end WorkflowGraph.Condition
