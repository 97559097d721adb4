import WorkflowGraph.Condition.Parser
import WorkflowGraph.Proofs.Trimming
set_option autoImplicit false

namespace WorkflowGraph.Condition

open Text (isBlank)

/-- Texts in which every quote closes: `plain` holds of the characters outside of quotes and
`literal` of what stands between two quotes. -/
inductive Closed (plain : Char → Prop) (literal : List Char → Prop) : List Char → Prop
  | nil : Closed plain literal []
  | char {c : Char} {rest : List Char} : isQuote c = false → plain c →
      Closed plain literal rest → Closed plain literal (c :: rest)
  | quoted {q : Char} {content rest : List Char} : isQuote q = true → q ∉ content →
      literal content → Closed plain literal rest →
      Closed plain literal (q :: (content ++ q :: rest))

variable {plain plain' : Char → Prop} {literal literal' : List Char → Prop} {xs ys cs : List Char}
  {d : Char}

namespace Closed

theorem mono (h : Closed plain literal xs) (hplain : ∀ c, plain c → plain' c)
    (hliteral : ∀ content, literal content → literal' content) : Closed plain' literal' xs := by
  induction h with
  | nil => exact .nil
  | char hquote hc _ ih => exact .char hquote (hplain _ hc) ih
  | quoted hquote hmem hcontent _ ih => exact .quoted hquote hmem (hliteral _ hcontent) ih

theorem append (hx : Closed plain literal xs) (hy : Closed plain literal ys) :
    Closed plain literal (xs ++ ys) := by
  induction hx with
  | nil => exact hy
  | char hquote hc _ ih => exact .char hquote hc ih
  | quoted hquote hmem hcontent _ ih =>
    rw [List.cons_append, List.append_assoc, List.cons_append]
    exact .quoted hquote hmem hcontent ih

theorem of_plain (hquote : ∀ c ∈ xs, isQuote c = false) (hplain : ∀ c ∈ xs, plain c) :
    Closed plain literal xs := by
  induction xs with
  | nil => exact .nil
  | cons c xs ih =>
    exact .char (hquote c List.mem_cons_self) (hplain c List.mem_cons_self)
      (ih (fun x hx => hquote x (List.mem_cons_of_mem _ hx))
        fun x hx => hplain x (List.mem_cons_of_mem _ hx))

end Closed

theorem isBlank_of_isQuote {c : Char} (h : isQuote c = true) : isBlank c = false := by
  simp only [isQuote, Bool.or_eq_true, beq_iff_eq] at h
  rcases h with rfl | rfl <;> decide

theorem isQuote_of_isBlank {c : Char} (h : isBlank c = true) : isQuote c = false := by
  by_contra hquote
  rw [isBlank_of_isQuote (by simpa using hquote)] at h
  simp at h

theorem ne_of_isQuote {q : Char} (hq : isQuote q = true) (hd : isQuote d = false) : q ≠ d := by
  rintro rfl
  simp [hd] at hq

theorem of_isOperatorChar {c : Char} (h : isOperatorChar c = true) :
    isQuote c = false ∧ isBlank c = false := by
  simp only [isOperatorChar, Bool.or_eq_true, beq_iff_eq] at h
  rcases h with ((((rfl | rfl) | rfl) | rfl) | rfl) | rfl <;> decide

theorem Closed.of_blank (h : ∀ c ∈ xs, isBlank c) (hplain : ∀ c, isBlank c = true → plain c) :
    Closed plain literal xs :=
  .of_plain (fun c hc => isQuote_of_isBlank (h c hc)) fun c hc => hplain c (h c hc)

theorem Closed.trimStart (h : Closed plain literal xs) :
    Closed plain literal (Text.trimStart xs) := by
  induction h with
  | nil => exact .nil
  | @char c rest hquote hc hrest ih =>
    cases hblank : isBlank c with
    | true => rwa [Text.trimStart_cons_of_blank hblank]
    | false =>
      rw [Text.trimStart_cons_of_not_blank hblank]
      exact .char hquote hc hrest
  | @quoted q content rest hquote hmem hcontent hrest _ =>
    rw [Text.trimStart_cons_of_not_blank (isBlank_of_isQuote hquote)]
    exact .quoted hquote hmem hcontent hrest

theorem Closed.trimEnd (h : Closed plain literal xs) :
    Closed plain literal (Text.trimEnd xs) := by
  induction h with
  | nil => exact .nil
  | @char c rest hquote hc _ ih =>
    rw [Text.trimEnd]
    generalize Text.trimEnd rest = kept at ih
    cases kept with
    | nil => cases isBlank c with
      | true => exact .nil
      | false => exact .char hquote hc .nil
    | cons d kept => exact .char hquote hc ih
  | quoted hquote hmem hcontent _ ih =>
    rw [Text.trimEnd_quoted (isBlank_of_isQuote hquote)]
    exact .quoted hquote hmem hcontent ih

theorem Closed.trim (h : Closed plain literal xs) : Closed plain literal (Text.trim xs) :=
  h.trimStart.trimEnd

theorem cutAt?_append {q : Char} {content : List Char} (h : q ∉ content) (rest : List Char) :
    cutAt? q (content ++ q :: rest) = some (content, rest) := by
  induction content with
  | nil => simp [cutAt?]
  | cons c content ih =>
    rw [List.mem_cons, not_or] at h
    rw [List.cons_append, cutAt?, if_neg (Ne.symm h.1), ih h.2]
    rfl

theorem not_mem_of_cutAt? {q : Char} {cs content rest : List Char}
    (h : cutAt? q cs = some (content, rest)) : q ∉ content := by
  induction cs generalizing content with
  | nil => simp [cutAt?] at h
  | cons c cs ih =>
    rw [cutAt?] at h
    split at h
    · obtain ⟨rfl, rfl⟩ := Prod.mk.inj (Option.some.inj h)
      simp
    · rename_i hne
      obtain ⟨p, hp, heq⟩ := Option.map_eq_some_iff.1 h
      obtain ⟨rfl, rfl⟩ := Prod.mk.inj heq
      rw [List.mem_cons, not_or]
      exact ⟨Ne.symm hne, ih hp⟩

theorem Closed.of_quoted {q : Char} {content : List Char} (hquote : isQuote q = true)
    (hmem : q ∉ content) (h : Closed plain literal (q :: (content ++ q :: xs))) :
    literal content ∧ Closed plain literal xs := by
  generalize htext : content ++ q :: xs = text at h
  cases h with
  | char hquote' => simp [hquote] at hquote'
  | @quoted _ content' rest _ hmem' hcontent hrest =>
    -- Both literals end at the first quote of their kind.
    have hcut := cutAt?_append hmem xs
    rw [htext, cutAt?_append hmem' rest] at hcut
    obtain ⟨rfl, rfl⟩ := Prod.mk.inj (Option.some.inj hcut)
    exact ⟨hcontent, hrest⟩

theorem Closed.of_cons {c : Char} (hquote : isQuote c = false)
    (h : Closed plain literal (c :: xs)) : plain c ∧ Closed plain literal xs := by
  cases h with
  | char _ hc hrest => exact ⟨hc, hrest⟩
  | quoted hquote' => simp [hquote] at hquote'

theorem Closed.of_append (hx : Closed plain literal xs) (h : Closed plain literal (xs ++ ys)) :
    Closed plain literal ys := by
  induction hx with
  | nil => exact h
  | char hquote _ _ ih => exact ih (h.of_cons hquote).2
  | quoted hquote hmem _ _ ih =>
    rw [List.cons_append, List.append_assoc, List.cons_append] at h
    exact ih (h.of_quoted hquote hmem).2

/-- The characters outside of quotes, up to a quote that does not close. -/
def outside (cs : List Char) : List Char :=
  match cs with
  | [] => []
  | c :: rest =>
    if isQuote c then
      match _h : cutAt? c rest with
      | some (_, after) => outside after
      | none => []
    else c :: outside rest
termination_by cs.length
decreasing_by
  · have := length_of_cutAt? _h
    simp
    omega
  · simp

theorem outside_cons {c : Char} (h : isQuote c = false) (rest : List Char) :
    outside (c :: rest) = c :: outside rest := by
  rw [outside, if_neg (by simp [h])]

theorem outside_quoted {q : Char} {content : List Char} (hquote : isQuote q = true)
    (hmem : q ∉ content) (rest : List Char) :
    outside (q :: (content ++ q :: rest)) = outside rest := by
  rw [outside, if_pos hquote]
  split
  · rename_i content' after hcut
    rw [cutAt?_append hmem] at hcut
    obtain ⟨-, rfl⟩ := Prod.mk.inj (Option.some.inj hcut)
    rfl
  · rename_i hcut
    rw [cutAt?_append hmem] at hcut
    simp at hcut

theorem Closed.outside_append (h : Closed plain literal xs) (ys : List Char) :
    outside (xs ++ ys) = outside xs ++ outside ys := by
  induction h with
  | nil => simp [outside]
  | char hquote _ _ ih =>
    rw [List.cons_append, outside_cons hquote, outside_cons hquote, ih, List.cons_append]
  | quoted hquote hmem _ _ ih =>
    rw [List.cons_append, List.append_assoc, List.cons_append, outside_quoted hquote hmem,
      outside_quoted hquote hmem, ih]

theorem Closed.plain_of_mem_outside (h : Closed plain literal xs) :
    ∀ c ∈ outside xs, plain c := by
  induction h with
  | nil => simp [outside]
  | char hquote hc _ ih =>
    rw [outside_cons hquote]
    intro c hmem
    rcases List.mem_cons.1 hmem with rfl | hmem
    · exact hc
    · exact ih c hmem
  | quoted hquote hmem _ _ ih => rwa [outside_quoted hquote hmem]

theorem spanAtoms_append (cs : List Char) : (spanAtoms cs).1 ++ (spanAtoms cs).2 = cs := by
  fun_induction spanAtoms cs with
  | case1 => rfl
  | case2 c rest hquote content after hcut more ih =>
    rw [cutAt?_eq hcut]
    simpa using ih
  | case3 c rest hquote hcut => rfl
  | case4 c rest hquote hop => rfl
  | case5 c rest hquote hop more ih => simpa using ih

def Atoms (cs : List Char) : Prop :=
  Closed (fun c => isOperatorChar c = false) (fun _ => True) cs

theorem atoms_spanAtoms (cs : List Char) : Atoms (spanAtoms cs).1 := by
  fun_induction spanAtoms cs with
  | case1 => exact .nil
  | case2 c rest hquote content after hcut more ih =>
    exact .quoted hquote (not_mem_of_cutAt? hcut) trivial ih
  | case3 c rest hquote hcut => exact .nil
  | case4 c rest hquote hop => exact .nil
  | case5 c rest hquote hop more ih => exact .char (by simpa using hquote) (by simpa using hop) ih

theorem atoms_of_isAtoms {cs : List Char} (h : isAtoms cs = true) : Atoms cs := by
  have hspan := spanAtoms_append cs
  rw [List.isEmpty_iff.1 h, List.append_nil] at hspan
  exact hspan ▸ atoms_spanAtoms cs

theorem spanAtoms_cons {c : Char} (hquote : isQuote c = false) (hop : isOperatorChar c = false)
    (rest : List Char) : spanAtoms (c :: rest) = (c :: (spanAtoms rest).1, (spanAtoms rest).2) := by
  rw [spanAtoms, if_neg (by simp [hquote]), if_neg (by simp [hop])]

theorem spanAtoms_quoted {q : Char} {content : List Char} (hquote : isQuote q = true)
    (hmem : q ∉ content) (rest : List Char) :
    spanAtoms (q :: (content ++ q :: rest)) =
      (q :: (content ++ q :: (spanAtoms rest).1), (spanAtoms rest).2) := by
  rw [spanAtoms, if_pos hquote]
  split
  · rename_i content' after hcut
    rw [cutAt?_append hmem] at hcut
    obtain ⟨rfl, rfl⟩ := Prod.mk.inj (Option.some.inj hcut)
    rfl
  · rename_i hcut
    rw [cutAt?_append hmem] at hcut
    simp at hcut

theorem spanAtoms_operatorChar {c : Char} (h : isOperatorChar c = true) (rest : List Char) :
    spanAtoms (c :: rest) = ([], c :: rest) := by
  rw [spanAtoms, if_neg (by simp [(of_isOperatorChar h).1]), if_pos h]

theorem Atoms.spanAtoms_append (h : Atoms xs) (ys : List Char) :
    spanAtoms (xs ++ ys) = (xs ++ (spanAtoms ys).1, (spanAtoms ys).2) := by
  induction h with
  | nil => rfl
  | char hquote hop _ ih => rw [List.cons_append, spanAtoms_cons hquote hop, ih, List.cons_append]
  | quoted hquote hmem _ _ ih =>
    rw [List.cons_append, List.append_assoc, List.cons_append, spanAtoms_quoted hquote hmem, ih,
      List.cons_append, List.append_assoc, List.cons_append]

theorem Atoms.spanAtoms_eq (h : Atoms cs) : spanAtoms cs = (cs, []) := by
  have hspan := h.spanAtoms_append []
  rwa [List.append_nil, spanAtoms, List.append_nil] at hspan

theorem isAtoms_iff : isAtoms cs = true ↔ Atoms cs := by
  refine ⟨atoms_of_isAtoms, fun h => ?_⟩
  rw [isAtoms, h.spanAtoms_eq]
  rfl

theorem atoms_of_blank (h : ∀ c ∈ xs, isBlank c) : Atoms xs := by
  refine .of_blank h fun c hc => ?_
  by_contra hop
  rw [(of_isOperatorChar (by simpa using hop)).2] at hc
  simp at hc

def CompareOp.spellings : CompareOp → List (List Char)
  | .eq => [['=', '=', '='], ['=', '=']]
  | .notEq => [['!', '=', '='], ['!', '=']]
  | .gt => [['>']]
  | .lt => [['<']]
  | .gte => [['>', '=']]
  | .lte => [['<', '=']]

theorem operator?_eq_some {cs right : List Char} {op : CompareOp}
    (h : operator? cs = some (op, right)) : ∃ sign ∈ op.spellings, cs = sign ++ right := by
  unfold operator? at h
  split at h
  all_goals simp only [Option.some.injEq, Prod.mk.injEq, reduceCtorEq] at h
  all_goals obtain ⟨rfl, rfl⟩ := h
  all_goals simp [CompareOp.spellings]

theorem comparison?_eq_some {cs left right : List Char} {op : CompareOp}
    (h : comparison? cs = some (left, op, right)) :
    Atoms left ∧ left ≠ [] ∧ Atoms right ∧ right ≠ [] ∧
      ∃ sign ∈ op.spellings, cs = left ++ (sign ++ right) := by
  have hspan := spanAtoms_append cs
  have hatoms := atoms_spanAtoms cs
  unfold comparison? at h
  generalize spanAtoms cs = p at h hspan hatoms
  obtain ⟨start, rest⟩ := p
  dsimp only at h hspan hatoms
  split at h
  · rename_i op' right' hop
    split at h
    · simp at h
    · rename_i hne
      simp only [Bool.or_eq_true, List.isEmpty_iff, Bool.not_eq_true', not_or] at hne
      obtain ⟨rfl, heq⟩ := Prod.mk.inj (Option.some.inj h)
      obtain ⟨rfl, rfl⟩ := Prod.mk.inj heq
      obtain ⟨sign, hsign, hrest⟩ := operator?_eq_some hop
      refine ⟨hatoms, hne.1.1, atoms_of_isAtoms (by simpa using hne.2), hne.1.2, sign, hsign, ?_⟩
      rw [← hrest, hspan]
  · simp at h

end WorkflowGraph.Condition
