import WorkflowGraph.Condition.Reference
import WorkflowGraph.Proofs.Connectives
import Mathlib.Data.List.Basic
set_option autoImplicit false

namespace WorkflowGraph.Condition

open Text (isBlank isWord continuesName trim trimStart trimEnd)

def isBreak (c : Char) : Bool := isBlank c || isOperatorChar c

def blankCodes : List Nat :=
  [9, 10, 11, 12, 13, 0x20, 0x85, 0xA0, 0x1680, 0x2000, 0x2001, 0x2002, 0x2003, 0x2004, 0x2005,
    0x2006, 0x2007, 0x2008, 0x2009, 0x200A, 0x2028, 0x2029, 0x202F, 0x205F, 0x3000]

theorem mem_blankCodes {c : Char} (h : isBlank c = true) : c.toNat ∈ blankCodes := by
  simp only [isBlank, Bool.or_eq_true, Bool.and_eq_true, decide_eq_true_eq, beq_iff_eq] at h
  simp only [blankCodes, List.mem_cons, List.not_mem_nil, or_false]
  omega

theorem continuesName_of_isBlank {c : Char} (h : isBlank c = true) : continuesName c = false := by
  have hall : ∀ n ∈ blankCodes, continuesName (Char.ofNat n) = false := by decide +kernel
  have hc := hall c.toNat (mem_blankCodes h)
  rwa [Char.ofNat_toNat] at hc

theorem continuesName_of_isBreak {c : Char} (h : isBreak c = true) : continuesName c = false := by
  rcases Bool.or_eq_true_iff.1 h with hblank | hop
  · exact continuesName_of_isBlank hblank
  · simp only [isOperatorChar, Bool.or_eq_true, beq_iff_eq] at hop
    rcases hop with ((((rfl | rfl) | rfl) | rfl) | rfl) | rfl <;> decide

theorem isWord_of_isBreak {c : Char} (h : isBreak c = true) : isWord c = false :=
  (Bool.or_eq_false_iff.1 (continuesName_of_isBreak h)).1

variable {part first second text whole cs xs ys : List Char}

def Delimited (part text : List Char) : Prop :=
  ∃ before after, text = before ++ (part ++ after) ∧
    (∀ c ∈ before.getLast?, isBreak c) ∧ ∀ c ∈ after.head?, isBreak c

namespace Delimited

theorem append_right (xs : List Char) (h : ∀ c ∈ ys.head?, isBreak c) :
    Delimited xs (xs ++ ys) := ⟨[], ys, rfl, by simp, h⟩

theorem append_left (h : ∀ c ∈ xs.getLast?, isBreak c) (ys : List Char) :
    Delimited ys (xs ++ ys) := ⟨xs, [], by simp, h, by simp⟩

theorem trans (h : Delimited part text) (h' : Delimited text whole) : Delimited part whole := by
  obtain ⟨before, after, rfl, hbefore, hafter⟩ := h
  obtain ⟨before', after', rfl, hbefore', hafter'⟩ := h'
  refine ⟨before' ++ before, after ++ after', by simp, ?_, ?_⟩
  · intro c hc
    by_cases hnil : before = []
    · exact hbefore' c (by simpa [hnil] using hc)
    · rw [List.getLast?_append_of_ne_nil _ hnil] at hc
      exact hbefore c hc
  · intro c hc
    by_cases hnil : after = []
    · exact hafter' c (by simpa [hnil] using hc)
    · rw [List.head?_append_of_ne_nil _ hnil] at hc
      exact hafter c hc

end Delimited

theorem delimited_trim (cs : List Char) : Delimited (trim cs) cs := by
  obtain ⟨before, hbefore, hstart⟩ := Text.exists_blanks_before cs
  obtain ⟨after, hafter, hend⟩ := Text.exists_blanks_after (trimStart cs)
  refine ⟨before, after, ?_, ?_, ?_⟩
  · rw [trim, hend, hstart]
  · intro c hc
    simp [isBreak, hbefore c (List.mem_of_getLast? hc)]
  · intro c hc
    simp [isBreak, hafter c (List.mem_of_head? hc)]

/-- The two sides of a gap that starts and ends with a break. -/
def Apart (first second text : List Char) : Prop :=
  ∃ gap, text = first ++ (gap ++ second) ∧ gap ≠ [] ∧
    (∀ c ∈ gap.head?, isBreak c) ∧ ∀ c ∈ gap.getLast?, isBreak c

namespace Apart

theorem left (h : Apart first second text) : Delimited first text := by
  obtain ⟨gap, rfl, hne, hhead, -⟩ := h
  refine .append_right first fun c hc => hhead c ?_
  rwa [List.head?_append_of_ne_nil _ hne] at hc

theorem right (h : Apart first second text) : Delimited second text := by
  obtain ⟨gap, rfl, hne, -, hlast⟩ := h
  rw [← List.append_assoc]
  refine .append_left (fun c hc => hlast c ?_) second
  rwa [List.getLast?_append_of_ne_nil _ hne] at hc

theorem append_left (h : Apart first second text) (xs : List Char) :
    Apart (xs ++ first) second (xs ++ text) := by
  obtain ⟨gap, rfl, hgap⟩ := h
  exact ⟨gap, by rw [List.append_assoc], hgap⟩

theorem of_operatorChars {gap : List Char} (hne : gap ≠ [])
    (h : ∀ c ∈ gap, isOperatorChar c = true) : Apart first second (first ++ (gap ++ second)) := by
  refine ⟨gap, rfl, hne, ?_, ?_⟩
  · intro c hc
    simp [isBreak, h c (List.mem_of_head? hc)]
  · intro c hc
    simp [isBreak, h c (List.mem_of_getLast? hc)]

end Apart

theorem apart_of_comparison? {op : CompareOp} (h : comparison? cs = some (first, op, second)) :
    Apart first second cs := by
  obtain ⟨-, -, -, -, sign, hsign, rfl⟩ := comparison?_eq_some h
  have hall : ∀ sign ∈ op.spellings, sign ≠ [] ∧ ∀ c ∈ sign, isOperatorChar c = true := by
    cases op <;> simp [CompareOp.spellings, isOperatorChar]
  exact .of_operatorChars (hall sign hsign).1 (hall sign hsign).2

theorem apart_of_afterIn? (h : afterIn? cs = some second) : Apart [] second cs := by
  unfold afterIn? at h
  split at h
  · rename_i c rest
    split at h
    · rename_i hblank
      split at h
      · rename_i d haystack hstart
        split at h
        · rename_i hlast
          obtain rfl := Option.some.inj h
          obtain ⟨blanks, -, hrest⟩ := Text.exists_blanks_before rest
          rw [hstart] at hrest
          refine ⟨c :: (blanks ++ ['i', 'n', d]), by simp [← hrest], by simp, ?_, ?_⟩
          · simp [isBreak, hblank]
          · rw [← List.cons_append, List.getLast?_append_of_ne_nil _ (by simp)]
            simp [isBreak, hlast]
        · simp at h
      · simp at h
    · simp at h
  · simp at h

theorem apart_of_cutAtIn? (h : cutAtIn? cs = some (first, second)) : Apart first second cs := by
  fun_induction cutAtIn? cs generalizing first with
  | case1 => simp at h
  | case2 c rest hquote content after hcut ih =>
    obtain ⟨p, hp, heq⟩ := Option.map_eq_some_iff.1 h
    obtain ⟨rfl, rfl⟩ := Prod.mk.inj heq
    rw [cutAt?_eq hcut]
    simpa using (ih hp).append_left (c :: (content ++ [c]))
  | case3 => simp at h
  | case4 c rest hquote haystack hin =>
    obtain ⟨rfl, rfl⟩ := Prod.mk.inj (Option.some.inj h)
    exact apart_of_afterIn? hin
  | case5 c rest hquote hin ih =>
    obtain ⟨p, hp, heq⟩ := Option.map_eq_some_iff.1 h
    obtain ⟨rfl, rfl⟩ := Prod.mk.inj heq
    exact (ih hp).append_left [c]

theorem apart_of_membership? (h : membership? cs = some (first, second)) :
    Apart first second cs := by
  unfold membership? at h
  split at h
  · split at h
    · rename_i needle haystack hcut
      split at h
      · simp at h
      · obtain ⟨rfl, rfl⟩ := Prod.mk.inj (Option.some.inj h)
        exact apart_of_cutAtIn? hcut
    · simp at h
  · simp at h

theorem apart_of_connective? {d : Char} (hd : isOperatorChar d = true)
    (h : connective? d cs = some (first, second)) : Apart first second cs := by
  obtain ⟨rfl, -, -⟩ := connective?_eq h
  have hpair : ∀ c ∈ [d, d], isOperatorChar c = true := by simp [hd]
  exact .of_operatorChars (by simp) hpair

theorem delimited_of_negation? (h : negation? cs = some text) : Delimited text cs := by
  unfold negation? at h
  split at h
  · rename_i c rest
    obtain rfl := Option.some.inj h
    have hlast : ∀ b ∈ ['!'].getLast?, isBreak b := by simp [isBreak, isOperatorChar]
    exact .append_left hlast (c :: rest)
  · simp at h

def TokenOf (cs : List Char) (token : String) : Prop :=
  trim token.toList = token.toList ∧ Delimited token.toList cs

theorem TokenOf.trans {token : String} (h : TokenOf part token) (hpart : Delimited part text) :
    TokenOf text token := ⟨h.1, h.2.trans hpart⟩

theorem tokenOf_operandText (cs : List Char) : TokenOf cs (operandText cs) := by
  rw [TokenOf, operandText, String.toList_ofList, Text.trim_trim]
  exact ⟨rfl, delimited_trim cs⟩

theorem Apart.tokens (h : Apart first second (trim cs)) {firsts seconds : List String}
    (hfirsts : ∀ token ∈ firsts, TokenOf first token)
    (hseconds : ∀ token ∈ seconds, TokenOf second token) :
    ∀ token ∈ firsts ++ seconds, TokenOf cs token := by
  intro token htoken
  rcases List.mem_append.1 htoken with htoken | htoken
  · exact (hfirsts token htoken).trans (h.left.trans (delimited_trim cs))
  · exact (hseconds token htoken).trans (h.right.trans (delimited_trim cs))

theorem Apart.operandTexts (h : Apart first second (trim cs)) :
    ∀ token ∈ [operandText first, operandText second], TokenOf cs token := by
  have hfirst : ∀ token ∈ [operandText first], TokenOf first token := by
    simpa using tokenOf_operandText first
  have hsecond : ∀ token ∈ [operandText second], TokenOf second token := by
    simpa using tokenOf_operandText second
  exact h.tokens hfirst hsecond

theorem tokenOf_of_mem_operands (cs : List Char) :
    ∀ token ∈ (parseChars cs).operands, TokenOf cs token := by
  fun_induction parseChars cs with
  | case1 cs text hempty => simp [Expr.operands]
  | case2 cs text hne left op right hcmp => exact (apart_of_comparison? hcmp).operandTexts
  | case3 cs text hne hcmp needle haystack hmem => exact (apart_of_membership? hmem).operandTexts
  | case4 cs text hne hcmp hmem left right hand ihleft ihright =>
    exact (apart_of_connective? (by decide) hand).tokens ihleft ihright
  | case5 cs text hne hcmp hmem hand left right hor ihleft ihright =>
    exact (apart_of_connective? (by decide) hor).tokens ihleft ihright
  | case6 cs text hne hcmp hmem hand hor inner hnot ih =>
    intro token htoken
    exact (ih token htoken).trans ((delimited_of_negation? hnot).trans (delimited_trim cs))
  | case7 cs text hne hcmp hmem hand hor hnot => simp [Expr.operands]

end WorkflowGraph.Condition
