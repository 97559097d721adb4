import WorkflowGraph.Text.Blank
import Mathlib.Data.List.Basic
import Mathlib.Data.List.TakeWhile
set_option autoImplicit false

namespace WorkflowGraph.Text

def Visible (cs : List Char) : Prop := ∃ c ∈ cs, isBlank c = false

variable {xs ys : List Char}

theorem not_visible_iff : ¬ Visible xs ↔ ∀ c ∈ xs, isBlank c := by
  simp [Visible]

theorem Visible.append_left (h : Visible ys) (xs : List Char) : Visible (xs ++ ys) := by
  obtain ⟨c, hc, hblank⟩ := h
  exact ⟨c, List.mem_append_right _ hc, hblank⟩

theorem Visible.append_right (h : Visible xs) (ys : List Char) : Visible (xs ++ ys) := by
  obtain ⟨c, hc, hblank⟩ := h
  exact ⟨c, List.mem_append_left _ hc, hblank⟩

theorem trimStart_cons_of_blank {c : Char} (h : isBlank c = true) (rest : List Char) :
    trimStart (c :: rest) = trimStart rest := List.dropWhile_cons_of_pos h

theorem trimStart_cons_of_not_blank {c : Char} (h : isBlank c = false) (rest : List Char) :
    trimStart (c :: rest) = c :: rest := List.dropWhile_cons_of_neg (by simp [h])

theorem trimStart_eq_nil_iff : trimStart xs = [] ↔ ∀ c ∈ xs, isBlank c := by
  rw [trimStart, List.dropWhile_eq_nil_iff]

theorem trimStart_append (h : Visible xs) (ys : List Char) :
    trimStart (xs ++ ys) = trimStart xs ++ ys := by
  induction xs with
  | nil =>
    obtain ⟨c, hc, -⟩ := h
    simp at hc
  | cons c xs ih =>
    cases hc : isBlank c with
    | false =>
      rw [List.cons_append, trimStart_cons_of_not_blank hc, trimStart_cons_of_not_blank hc,
        List.cons_append]
    | true =>
      obtain ⟨d, hd, hblank⟩ := h
      have hne : d ≠ c := by
        intro heq
        rw [heq, hc] at hblank
        simp at hblank
      rw [List.cons_append, trimStart_cons_of_blank hc, trimStart_cons_of_blank hc]
      exact ih ⟨d, (List.mem_cons.1 hd).resolve_left hne, hblank⟩

theorem trimStart_append_of_blank (h : ∀ c ∈ xs, isBlank c) (ys : List Char) :
    trimStart (xs ++ ys) = trimStart ys := List.dropWhile_append_of_pos h

theorem trimEnd_append (xs : List Char) (h : Visible ys) :
    trimEnd (xs ++ ys) = xs ++ trimEnd ys := by
  induction xs with
  | nil => rfl
  | cons c xs ih =>
    have hne : xs ++ trimEnd ys ≠ [] := by
      intro hnil
      have hall := (trimEnd_eq_nil_iff ys).1 (List.append_eq_nil_iff.1 hnil).2
      exact not_visible_iff.2 hall h
    rw [List.cons_append, trimEnd, ih]
    cases hkept : xs ++ trimEnd ys with
    | nil => exact absurd hkept hne
    | cons d kept => rw [List.cons_append, hkept]

theorem trimEnd_quoted {q : Char} (hq : isBlank q = false) (content rest : List Char) :
    trimEnd (q :: (content ++ q :: rest)) = q :: (content ++ q :: trimEnd rest) := by
  rw [trimEnd_cons_of_not_blank _ hq, trimEnd_append _ ⟨q, List.mem_cons_self, hq⟩,
    trimEnd_cons_of_not_blank _ hq]

theorem trimEnd_append_of_blank (xs : List Char) (h : ∀ c ∈ ys, isBlank c) :
    trimEnd (xs ++ ys) = trimEnd xs := by
  induction xs with
  | nil => exact (trimEnd_eq_nil_iff ys).2 h
  | cons c xs ih => rw [List.cons_append, trimEnd, trimEnd, ih]

theorem trimStart_trimEnd_comm (xs : List Char) :
    trimStart (trimEnd xs) = trimEnd (trimStart xs) := by
  induction xs with
  | nil => rfl
  | cons c xs ih =>
    cases hc : isBlank c with
    | false =>
      rw [trimEnd_cons_of_not_blank _ hc, trimStart_cons_of_not_blank hc,
        trimStart_cons_of_not_blank hc, trimEnd_cons_of_not_blank _ hc]
    | true =>
      rw [trimStart_cons_of_blank hc, ← ih, trimEnd]
      cases hkept : trimEnd xs with
      | nil => simp [hc]
      | cons d kept => exact trimStart_cons_of_blank hc _

theorem trim_trimStart (xs : List Char) : trim (trimStart xs) = trim xs := by
  rw [trim, trimStart_trimStart, trim]

theorem trim_trimEnd (xs : List Char) : trim (trimEnd xs) = trim xs := by
  rw [trim, trimStart_trimEnd_comm, trimEnd_trimEnd, trim]

theorem trim_append (hx : Visible xs) (middle : List Char) (hy : Visible ys) :
    trim (xs ++ (middle ++ ys)) = trimStart xs ++ (middle ++ trimEnd ys) := by
  rw [trim, trimStart_append hx, ← List.append_assoc, trimEnd_append _ hy, List.append_assoc]

theorem trim_append_of_blank (xs : List Char) (h : ∀ c ∈ ys, isBlank c) :
    trim (xs ++ ys) = trim xs := by
  rw [← trim_trimEnd, trimEnd_append_of_blank xs h, trim_trimEnd]

theorem trim_append_of_blank_left (h : ∀ c ∈ xs, isBlank c) (ys : List Char) :
    trim (xs ++ ys) = trim ys := by
  rw [trim, trimStart_append_of_blank h, trim]

theorem Visible.trimStart_ne_nil (h : Visible xs) : trimStart xs ≠ [] :=
  fun hnil => not_visible_iff.2 (trimStart_eq_nil_iff.1 hnil) h

theorem Visible.trimEnd_ne_nil (h : Visible xs) : trimEnd xs ≠ [] :=
  fun hnil => not_visible_iff.2 ((trimEnd_eq_nil_iff xs).1 hnil) h

theorem exists_blanks_before (xs : List Char) :
    ∃ blanks, (∀ c ∈ blanks, isBlank c) ∧ blanks ++ trimStart xs = xs :=
  ⟨xs.takeWhile isBlank, fun _ hc => List.mem_takeWhile_imp hc, List.takeWhile_append_dropWhile⟩

theorem exists_blanks_after (xs : List Char) :
    ∃ blanks, (∀ c ∈ blanks, isBlank c) ∧ trimEnd xs ++ blanks = xs := by
  induction xs with
  | nil => exact ⟨[], by simp, rfl⟩
  | cons c xs ih =>
    obtain ⟨blanks, hblanks, heq⟩ := ih
    cases hkept : trimEnd xs with
    | nil =>
      rw [hkept, List.nil_append] at heq
      subst heq
      cases hc : isBlank c with
      | true => exact ⟨c :: blanks, by simpa [hc] using hblanks, by simp [trimEnd, hkept, hc]⟩
      | false => exact ⟨blanks, hblanks, by simp [trimEnd, hkept, hc]⟩
    | cons d kept =>
      refine ⟨blanks, hblanks, ?_⟩
      rw [trimEnd, hkept, List.cons_append, ← hkept, heq]

theorem isBlank_of_mem_head?_trim {c : Char} (h : c ∈ (trim xs).head?) : isBlank c = false := by
  have hstart := List.head?_dropWhile_not isBlank (trimEnd xs)
  rw [trim, ← trimStart_trimEnd_comm] at h
  unfold trimStart at h
  rwa [Option.mem_def.1 h] at hstart

theorem isBlank_of_mem_getLast?_trimEnd {c : Char} (h : c ∈ (trimEnd xs).getLast?) :
    isBlank c = false := by
  induction xs with
  | nil => simp [trimEnd] at h
  | cons d xs ih =>
    rw [trimEnd] at h
    split at h
    · rename_i hnil
      cases hd : isBlank d with
      | true => simp [hd] at h
      | false =>
        obtain rfl : d = c := by simpa [hd] using h
        exact hd
    · rename_i kept hne
      cases hkept : trimEnd xs with
      | nil => exact absurd hkept hne
      | cons e kept =>
        rw [hkept, List.getLast?_cons_cons, ← hkept] at h
        exact ih h

theorem isBlank_of_mem_getLast?_trim {c : Char} (h : c ∈ (trim xs).getLast?) :
    isBlank c = false := isBlank_of_mem_getLast?_trimEnd h

theorem trimStart_eq_self (h : ∀ c ∈ xs.head?, isBlank c = false) : trimStart xs = xs := by
  cases xs with
  | nil => rfl
  | cons c rest => exact trimStart_cons_of_not_blank (h c rfl) rest

theorem trimEnd_eq_self (h : ∀ c ∈ xs.getLast?, isBlank c = false) : trimEnd xs = xs := by
  obtain ⟨blanks, hblanks, heq⟩ := exists_blanks_after xs
  cases hlast : blanks.getLast? with
  | none =>
    rw [List.getLast?_eq_none_iff.1 hlast, List.append_nil] at heq
    exact heq
  | some c =>
    have hc : isBlank c = false := by
      refine h c ?_
      rw [← heq, List.getLast?_append, hlast]
      rfl
    simp [hblanks c (List.mem_of_getLast? hlast)] at hc

/-- There is nothing to cut if neither end is blank. -/
theorem trim_eq_self (hhead : ∀ c ∈ xs.head?, isBlank c = false)
    (hlast : ∀ c ∈ xs.getLast?, isBlank c = false) : trim xs = xs := by
  rw [trim, trimStart_eq_self hhead, trimEnd_eq_self hlast]

theorem exists_blanks_after_trim (h : ∀ c ∈ xs.head?, isBlank c = false) :
    ∃ blanks, (∀ c ∈ blanks, isBlank c) ∧ trim xs ++ blanks = xs := by
  rw [trim, trimStart_eq_self h]
  exact exists_blanks_after xs

theorem exists_blanks_before_trim (h : ∀ c ∈ xs.getLast?, isBlank c = false) :
    ∃ blanks, (∀ c ∈ blanks, isBlank c) ∧ blanks ++ trim xs = xs := by
  rw [trim, ← trimStart_trimEnd_comm, trimEnd_eq_self h]
  exact exists_blanks_before xs

theorem visible_of_head? (hne : xs ≠ []) (h : ∀ c ∈ xs.head?, isBlank c = false) :
    Visible xs :=
  ⟨xs.head hne, List.head_mem hne, h _ (List.head?_eq_some_head hne)⟩

theorem visible_of_getLast? (hne : xs ≠ []) (h : ∀ c ∈ xs.getLast?, isBlank c = false) :
    Visible xs :=
  ⟨xs.getLast hne, List.getLast_mem hne, h _ (List.getLast?_eq_some_getLast hne)⟩

section Sides

variable {cs gap : List Char} (h : trim cs = xs ++ (gap ++ ys))
include h

theorem isBlank_of_mem_head?_side (hx : xs ≠ []) : ∀ c ∈ xs.head?, isBlank c = false := by
  intro c hc
  have hhead : c ∈ (trim cs).head? := by
    rwa [h, List.head?_append_of_ne_nil _ hx]
  exact isBlank_of_mem_head?_trim hhead

theorem isBlank_of_mem_getLast?_side (hy : ys ≠ []) : ∀ c ∈ ys.getLast?, isBlank c = false := by
  intro c hc
  have hlast : c ∈ (trim cs).getLast? := by
    rwa [h, ← List.append_assoc, List.getLast?_append_of_ne_nil _ hy]
  exact isBlank_of_mem_getLast?_trim hlast

theorem visible_sides (hx : xs ≠ []) (hy : ys ≠ []) : Visible xs ∧ Visible ys :=
  ⟨visible_of_head? hx (isBlank_of_mem_head?_side h hx),
    visible_of_getLast? hy (isBlank_of_mem_getLast?_side h hy)⟩

theorem exists_trimmed_sides (hx : xs ≠ []) (hy : ys ≠ []) :
    ∃ before after, (∀ c ∈ before, isBlank c) ∧ (∀ c ∈ after, isBlank c) ∧
      trim cs = trim xs ++ ((before ++ (gap ++ after)) ++ trim ys) := by
  obtain ⟨before, hbefore, hxs⟩ := exists_blanks_after_trim (isBlank_of_mem_head?_side h hx)
  obtain ⟨after, hafter, hys⟩ := exists_blanks_before_trim (isBlank_of_mem_getLast?_side h hy)
  refine ⟨before, after, hbefore, hafter, ?_⟩
  rw [h]
  nth_rewrite 1 [← hxs, ← hys]
  simp only [List.append_assoc]

end Sides

theorem isPrefix_trimEnd (xs : List Char) : trimEnd xs <+: xs := by
  obtain ⟨blanks, -, heq⟩ := exists_blanks_after xs
  exact ⟨blanks, heq⟩

theorem isSuffix_trimStart (xs : List Char) : trimStart xs <:+ xs := List.dropWhile_suffix _

end WorkflowGraph.Text
