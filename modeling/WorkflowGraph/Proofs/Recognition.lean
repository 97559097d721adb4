import WorkflowGraph.Proofs.Connectives
set_option autoImplicit false

namespace WorkflowGraph.Condition

open Text (isBlank trim trimStart trimEnd)

variable {xs ys cs left right rest needle haystack : List Char}

@[ext] structure Comparison where
  left : List Char
  op : CompareOp
  sign : List Char
  right : List Char
  left_ne_nil : left ≠ []
  atoms_left : Atoms left
  sign_mem : sign ∈ op.spellings
  right_ne_nil : right ≠ []
  atoms_right : Atoms right

namespace Comparison

def text (c : Comparison) : List Char := c.left ++ (c.sign ++ c.right)

def expr (c : Comparison) : Expr :=
  .compare (String.ofList (trim c.left)) c.op (String.ofList (trim c.right))

end Comparison

theorem operatorChar_of_mem_spellings {op : CompareOp} {sign : List Char}
    (h : sign ∈ op.spellings) : sign ≠ [] ∧ ∀ c ∈ sign, isOperatorChar c = true := by
  have hall : ∀ sign ∈ op.spellings, sign ≠ [] ∧ ∀ c ∈ sign, isOperatorChar c = true := by
    cases op <;> simp [CompareOp.spellings, isOperatorChar]
  exact hall sign h

theorem operator?_append {op : CompareOp} {sign : List Char} (h : sign ∈ op.spellings)
    (hright : ∀ c ∈ right.head?, c ≠ '=') : operator? (sign ++ right) = some (op, right) := by
  cases right with
  | nil =>
    revert sign
    cases op <;> decide
  | cons c right =>
    have hc : c ≠ '=' := hright c rfl
    revert sign
    cases op <;> simp [CompareOp.spellings, operator?, hc]

namespace Comparison

variable (c : Comparison)

theorem spanAtoms_text : spanAtoms c.text = (c.left, c.sign ++ c.right) := by
  obtain ⟨hne, hop⟩ := operatorChar_of_mem_spellings c.sign_mem
  obtain ⟨first, rest, hsign⟩ := List.exists_cons_of_ne_nil hne
  have hfirst : isOperatorChar first = true := hop first (hsign ▸ List.mem_cons_self)
  rw [text, Atoms.spanAtoms_append c.atoms_left, hsign, List.cons_append,
    spanAtoms_operatorChar hfirst, List.append_nil]

theorem comparison?_text : comparison? c.text = some (c.left, c.op, c.right) := by
  have hright : ∀ first ∈ c.right.head?, first ≠ '=' := by
    rintro first hfirst rfl
    obtain ⟨rest, hrest⟩ := List.head?_eq_some_iff.1 hfirst
    have hatoms := c.atoms_right
    rw [hrest] at hatoms
    cases hatoms with
    | char _ hop _ => simp [isOperatorChar] at hop
    | quoted hquote => simp [isQuote] at hquote
  have hatoms : isAtoms c.right = true := isAtoms_iff.2 c.atoms_right
  rw [comparison?, c.spanAtoms_text]
  dsimp only
  rw [operator?_append c.sign_mem hright]
  simp [c.left_ne_nil, c.right_ne_nil, hatoms]

end Comparison

theorem comparison?_eq_some_iff {op : CompareOp} :
    comparison? cs = some (left, op, right) ↔
      ∃ c : Comparison, c.text = cs ∧ c.left = left ∧ c.op = op ∧ c.right = right := by
  constructor
  · intro h
    obtain ⟨hleft, hlne, hright, hrne, sign, hsign, heq⟩ := comparison?_eq_some h
    exact ⟨⟨left, op, sign, right, hlne, hleft, hsign, hrne, hright⟩, heq.symm, rfl, rfl, rfl⟩
  · rintro ⟨c, rfl, rfl, rfl, rfl⟩
    exact c.comparison?_text

theorem Comparison.text_injective : Function.Injective Comparison.text := by
  intro a b h
  have hread := a.comparison?_text
  rw [h, b.comparison?_text] at hread
  obtain ⟨hleft, hrest⟩ := Prod.mk.inj (Option.some.inj hread)
  obtain ⟨hop, hright⟩ := Prod.mk.inj hrest
  rw [text, text, hleft, hright] at h
  have hsign : a.sign = b.sign := List.append_cancel_right (List.append_cancel_left h)
  exact Comparison.ext hleft.symm hop.symm hsign hright.symm

def CompareOp.Matches (op : CompareOp) (cs : List Char) : Prop :=
  ∃ c : Comparison, c.text = cs ∧ c.op = op

theorem matches_iff {op : CompareOp} :
    op.Matches cs ↔ (comparison? cs).map (·.2.1) = some op := by
  constructor
  · rintro ⟨c, rfl, rfl⟩
    rw [c.comparison?_text]
    rfl
  · intro h
    obtain ⟨⟨left, op', right⟩, hcs, rfl⟩ := Option.map_eq_some_iff.1 h
    obtain ⟨c, htext, -, hop, -⟩ := comparison?_eq_some_iff.1 hcs
    exact ⟨c, htext, hop⟩

instance (op : CompareOp) (cs : List Char) : Decidable (op.Matches cs) :=
  decidable_of_iff _ matches_iff.symm

theorem find?_matches_eq_some_iff {op : CompareOp} {trials : List CompareOp}
    (htrials : ∀ op, op ∈ trials) :
    trials.find? (·.Matches cs) = some op ↔ op.Matches cs := by
  constructor
  · intro h
    simpa using List.find?_some h
  · intro h
    obtain ⟨found, hfound⟩ : ∃ found, trials.find? (·.Matches cs) = some found := by
      rw [← Option.isSome_iff_exists, List.find?_isSome]
      exact ⟨op, htrials op, by simpa using h⟩
    have hmatch : found.Matches cs := by simpa using List.find?_some hfound
    obtain ⟨c, htext, rfl⟩ := h
    obtain ⟨c', htext', rfl⟩ := hmatch
    rw [hfound, Comparison.text_injective (htext.trans htext'.symm)]

structure Membership where
  needle : List Char
  before : List Char
  after : List Char
  haystack : List Char
  needle_ne_nil : needle ≠ []
  atoms_needle : Atoms needle
  before_ne_nil : before ≠ []
  blank_before : ∀ c ∈ before, isBlank c
  after_ne_nil : after ≠ []
  blank_after : ∀ c ∈ after, isBlank c
  haystack_ne_nil : haystack ≠ []
  atoms_haystack : Atoms haystack

namespace Membership

def text (m : Membership) : List Char :=
  m.needle ++ (m.before ++ 'i' :: 'n' :: (m.after ++ m.haystack))

theorem text_eq (m : Membership) :
    m.text = m.needle ++ ((m.before ++ 'i' :: 'n' :: m.after) ++ m.haystack) := by
  simp [text]

def expr (m : Membership) : Expr :=
  .isIn (String.ofList (trim m.needle)) (String.ofList (trim m.haystack))

/-- No other membership with this text has a shorter needle. -/
def IsFirst (m : Membership) : Prop :=
  ∀ other : Membership, other.text = m.text → m.needle.length ≤ other.needle.length

end Membership

/-- What comes after the blanks, the word `in` and one more blank. -/
theorem afterIn?_eq_some_iff :
    afterIn? cs = some haystack ↔ ∃ before blank, before ≠ [] ∧ (∀ c ∈ before, isBlank c) ∧
      isBlank blank = true ∧ cs = before ++ 'i' :: 'n' :: blank :: haystack := by
  constructor
  · intro h
    unfold afterIn? at h
    split at h
    · rename_i c rest
      split at h
      · rename_i hc
        split at h
        · rename_i blank haystack' hrest
          split at h
          · rename_i hblank
            obtain rfl := Option.some.inj h
            obtain ⟨blanks, hblanks, heq⟩ := Text.exists_blanks_before rest
            rw [hrest] at heq
            refine ⟨c :: blanks, blank, by simp, ?_, hblank, by rw [← heq, List.cons_append]⟩
            simpa [hc] using hblanks
          · simp at h
        · simp at h
      · simp at h
    · simp at h
  · rintro ⟨before, blank, hne, hblanks, hblank, rfl⟩
    obtain ⟨c, rest, rfl⟩ := List.exists_cons_of_ne_nil hne
    have hrest : ∀ d ∈ rest, isBlank d := fun d hd => hblanks d (List.mem_cons_of_mem _ hd)
    have hword : Text.trimStart (rest ++ 'i' :: 'n' :: blank :: haystack) =
        'i' :: 'n' :: blank :: haystack := by
      rw [Text.trimStart_append_of_blank hrest, Text.trimStart_cons_of_not_blank (by decide)]
    rw [List.cons_append, afterIn?, if_pos (hblanks c List.mem_cons_self), hword]
    exact if_pos hblank

theorem atoms_in (hxs : ∀ c ∈ xs, isBlank c) (hys : ∀ c ∈ ys, isBlank c) :
    Atoms (xs ++ 'i' :: 'n' :: ys) :=
  (atoms_of_blank hxs).append
    (.char (by decide) (by decide) (.char (by decide) (by decide) (atoms_of_blank hys)))

theorem cutAtIn?_cons {c : Char} (hquote : isQuote c = false) (rest : List Char) :
    cutAtIn? (c :: rest) =
      match afterIn? (c :: rest) with
      | some haystack => some ([], haystack)
      | none => (cutAtIn? rest).map fun p => (c :: p.1, p.2) := by
  rw [cutAtIn?]
  exact if_neg (by simp [hquote])

theorem cutAtIn?_quoted {q : Char} {content : List Char} (hquote : isQuote q = true)
    (hmem : q ∉ content) (rest : List Char) :
    cutAtIn? (q :: (content ++ q :: rest)) =
      (cutAtIn? rest).map fun p => (q :: (content ++ q :: p.1), p.2) := by
  rw [cutAtIn?, if_pos hquote]
  split
  · rename_i content' after hcut
    rw [cutAt?_append hmem] at hcut
    obtain ⟨rfl, rfl⟩ := Prod.mk.inj (Option.some.inj hcut)
    rfl
  · rename_i hcut
    rw [cutAt?_append hmem] at hcut
    simp at hcut

theorem Atoms.of_cutAtIn? (h : Atoms cs) (hcut : cutAtIn? cs = some (needle, haystack)) :
    Atoms needle ∧ ∃ rest, cs = needle ++ rest ∧ afterIn? rest = some haystack := by
  induction h generalizing needle with
  | nil => simp [cutAtIn?] at hcut
  | @char c rest hquote hop _ ih =>
    rw [cutAtIn?_cons hquote] at hcut
    split at hcut
    · rename_i hin
      obtain ⟨rfl, rfl⟩ := Prod.mk.inj (Option.some.inj hcut)
      exact ⟨.nil, c :: rest, rfl, hin⟩
    · obtain ⟨p, hp, heq⟩ := Option.map_eq_some_iff.1 hcut
      obtain ⟨rfl, rfl⟩ := Prod.mk.inj heq
      obtain ⟨hatoms, tail, htail, hin⟩ := ih hp
      exact ⟨.char hquote hop hatoms, tail, by rw [htail, List.cons_append], hin⟩
  | @quoted q content rest hquote hmem _ _ ih =>
    rw [cutAtIn?_quoted hquote hmem] at hcut
    obtain ⟨p, hp, heq⟩ := Option.map_eq_some_iff.1 hcut
    obtain ⟨rfl, rfl⟩ := Prod.mk.inj heq
    obtain ⟨hatoms, tail, htail, hin⟩ := ih hp
    exact ⟨.quoted hquote hmem trivial hatoms, tail, by simp [htail], hin⟩

/-- Where an `in` follows atoms, the text is cut there or before. -/
theorem Atoms.exists_cutAtIn? (h : Atoms needle) (hin : afterIn? rest = some haystack) :
    ∃ first, cutAtIn? (needle ++ rest) = some first ∧ first.1.length ≤ needle.length := by
  induction h with
  | nil =>
    obtain ⟨before, blank, hne, hblank, -, rfl⟩ := afterIn?_eq_some_iff.1 hin
    obtain ⟨c, before, rfl⟩ := List.exists_cons_of_ne_nil hne
    have hquote : isQuote c = false := isQuote_of_isBlank (hblank c List.mem_cons_self)
    refine ⟨([], haystack), ?_, Nat.le_refl _⟩
    rw [List.nil_append, List.cons_append, cutAtIn?_cons hquote, ← List.cons_append, hin]
  | @char c more hquote _ _ ih =>
    obtain ⟨first, hfirst, hlength⟩ := ih
    rw [List.cons_append, cutAtIn?_cons hquote, hfirst]
    cases afterIn? (c :: (more ++ rest)) with
    | some haystack => exact ⟨_, rfl, Nat.zero_le _⟩
    | none => exact ⟨_, rfl, Nat.succ_le_succ hlength⟩
  | quoted hquote hmem _ _ ih =>
    obtain ⟨first, hfirst, hlength⟩ := ih
    rw [List.cons_append, List.append_assoc, List.cons_append, cutAtIn?_quoted hquote hmem, hfirst]
    refine ⟨_, rfl, ?_⟩
    simp only [List.length_cons, List.length_append]
    omega

namespace Membership

variable (m : Membership)

theorem atoms_text : Atoms m.text := by
  have hword := (atoms_in m.blank_before m.blank_after).append m.atoms_haystack
  rw [List.append_assoc] at hword
  exact m.atoms_needle.append hword

theorem comparison?_text : comparison? m.text = none := by
  rw [comparison?, m.atoms_text.spanAtoms_eq]
  rfl

theorem exists_afterIn? : ∃ haystack,
    afterIn? (m.before ++ 'i' :: 'n' :: (m.after ++ m.haystack)) = some haystack ∧
      trim haystack = trim m.haystack := by
  obtain ⟨blank, after, hafter⟩ := List.exists_cons_of_ne_nil m.after_ne_nil
  have hblank := m.blank_after
  rw [hafter] at hblank
  refine ⟨after ++ m.haystack, afterIn?_eq_some_iff.2 ⟨m.before, blank, m.before_ne_nil,
    m.blank_before, hblank blank List.mem_cons_self, by rw [hafter, List.cons_append]⟩, ?_⟩
  exact Text.trim_append_of_blank_left (fun c hc => hblank c (List.mem_cons_of_mem _ hc)) _

theorem exists_cutAtIn? :
    ∃ first, cutAtIn? m.text = some first ∧ first.1.length ≤ m.needle.length := by
  obtain ⟨haystack, hin, -⟩ := m.exists_afterIn?
  exact m.atoms_needle.exists_cutAtIn? hin

end Membership

/-- What is cut at an `in` is a membership, if the text has no blanks around it. -/
theorem Atoms.exists_membership (h : Atoms cs) (htrim : trim cs = cs)
    (hcut : cutAtIn? cs = some (needle, haystack)) :
    ∃ m : Membership, m.text = cs ∧ m.needle = needle ∧ m.haystack = haystack := by
  obtain ⟨hneedle, rest, rfl, hin⟩ := h.of_cutAtIn? hcut
  obtain ⟨before, blank, hbefore, hblanks, hblank, rfl⟩ := afterIn?_eq_some_iff.1 hin
  have hneedle_ne : needle ≠ [] := by
    rintro rfl
    obtain ⟨c, before, rfl⟩ := List.exists_cons_of_ne_nil hbefore
    have hc : isBlank c = false := Text.isBlank_of_mem_head?_trim (by rw [htrim]; rfl)
    rw [hblanks c List.mem_cons_self] at hc
    simp at hc
  have hhaystack_ne : haystack ≠ [] := by
    rintro rfl
    have hlast : isBlank blank = false :=
      Text.isBlank_of_mem_getLast?_trim (by rw [htrim]; simp)
    simp [hblank] at hlast
  have hhaystack : Atoms haystack := by
    have hword : Atoms (before ++ ['i', 'n', blank]) := atoms_in hblanks (by simpa using hblank)
    refine hword.of_append (hneedle.of_append ?_)
    rwa [List.append_assoc]
  exact ⟨⟨needle, before, [blank], haystack, hneedle_ne, hneedle, hbefore, hblanks, by simp,
    by simpa using hblank, hhaystack_ne, hhaystack⟩, rfl, rfl, rfl⟩

theorem exists_membership_of_membership? (htrim : trim cs = cs)
    (h : membership? cs = some (needle, haystack)) :
    ∃ m : Membership, m.text = cs ∧ m.IsFirst ∧ m.needle = needle ∧ m.haystack = haystack := by
  unfold membership? at h
  split at h
  · rename_i hatoms
    split at h
    · rename_i needle' haystack' hcut
      split at h
      · simp at h
      · obtain ⟨rfl, rfl⟩ := Prod.mk.inj (Option.some.inj h)
        obtain ⟨m, htext, hneedle, hhaystack⟩ :=
          (isAtoms_iff.1 hatoms).exists_membership htrim hcut
        refine ⟨m, htext, fun other hother => ?_, hneedle, hhaystack⟩
        obtain ⟨first, hfirst, hlength⟩ := other.exists_cutAtIn?
        rw [hother, htext, hcut] at hfirst
        rwa [← Option.some.inj hfirst, ← hneedle] at hlength
    · simp at h
  · simp at h

/-- The text of a membership is read as a membership whose needle is not longer. -/
theorem Membership.exists_membership? (m : Membership) (htrim : trim m.text = m.text) :
    ∃ other : Membership, other.text = m.text ∧ other.needle.length ≤ m.needle.length ∧
      membership? m.text = some (other.needle, other.haystack) := by
  obtain ⟨⟨needle, haystack⟩, hcut, hlength⟩ := m.exists_cutAtIn?
  obtain ⟨other, htext, rfl, rfl⟩ := m.atoms_text.exists_membership htrim hcut
  refine ⟨other, htext, hlength, ?_⟩
  rw [membership?, if_pos (isAtoms_iff.2 m.atoms_text), hcut]
  simp [other.needle_ne_nil, other.haystack_ne_nil]

theorem Membership.membership?_text (m : Membership) (hfirst : m.IsFirst)
    (htrim : trim m.text = m.text) : ∃ haystack,
    membership? m.text = some (m.needle, haystack) ∧ trim haystack = trim m.haystack := by
  obtain ⟨other, htext, hlength, hmem⟩ := m.exists_membership? htrim
  -- Neither needle is the shorter one, so both memberships have the same `in`.
  have hsame : other.needle.length = m.needle.length :=
    Nat.le_antisymm hlength (hfirst other htext)
  obtain ⟨hneedle, hrest⟩ := List.append_inj htext hsame
  obtain ⟨haystack, hin, htrimmed⟩ := m.exists_afterIn?
  obtain ⟨haystack', hin', htrimmed'⟩ := other.exists_afterIn?
  rw [hrest, hin] at hin'
  obtain rfl := Option.some.inj hin'
  exact ⟨other.haystack, hneedle ▸ hmem, htrimmed'.symm.trans htrimmed⟩

theorem parseChars_of_comparison? {op : CompareOp}
    (h : comparison? (trim cs) = some (left, op, right)) :
    parseChars cs = .compare (operandText left) op (operandText right) := by
  obtain ⟨c, htext, -⟩ := comparison?_eq_some_iff.1 h
  have hne : (trim cs).isEmpty = false := by simp [← htext, Comparison.text, c.left_ne_nil]
  rw [parseChars, if_neg (by simp [hne]), h]

theorem parseChars_eq_compare_iff {l r : String} {op : CompareOp} :
    parseChars cs = .compare l op r ↔
      ∃ c : Comparison, c.text = trim cs ∧ c.expr = .compare l op r := by
  constructor
  · fun_cases parseChars cs with
    | case2 text _ left op' right hcmp =>
      obtain ⟨c, htext, rfl, rfl, rfl⟩ := comparison?_eq_some_iff.1 hcmp
      exact fun hexpr => ⟨c, htext, hexpr⟩
    | _ => simp
  · rintro ⟨c, htext, hexpr⟩
    rw [parseChars_of_comparison? (htext ▸ c.comparison?_text)]
    exact hexpr

theorem parseChars_of_membership? (h : membership? (trim cs) = some (needle, haystack)) :
    parseChars cs = .isIn (operandText needle) (operandText haystack) := by
  obtain ⟨m, htext, -⟩ := exists_membership_of_membership? (Text.trim_trim cs) h
  have hne : (trim cs).isEmpty = false := by simp [← htext, Membership.text, m.needle_ne_nil]
  have hcmp : comparison? (trim cs) = none := htext ▸ m.comparison?_text
  rw [parseChars, if_neg (by simp [hne]), hcmp, h]

theorem parseChars_eq_isIn_iff {n h : String} :
    parseChars cs = .isIn n h ↔
      ∃ m : Membership, m.text = trim cs ∧ m.IsFirst ∧ m.expr = .isIn n h := by
  constructor
  · fun_cases parseChars cs with
    | case3 text _ hcmp needle haystack hmem =>
      obtain ⟨m, htext, hfirst, rfl, rfl⟩ :=
        exists_membership_of_membership? (Text.trim_trim cs) hmem
      exact fun hexpr => ⟨m, htext, hfirst, hexpr⟩
    | _ => simp
  · rintro ⟨m, htext, hfirst, hexpr⟩
    obtain ⟨haystack, hmem, htrimmed⟩ := m.membership?_text hfirst (by rw [htext, Text.trim_trim])
    rw [parseChars_of_membership? (htext ▸ hmem), ← hexpr, Membership.expr, operandText,
      operandText, htrimmed]

/-- A condition is parsed into a comparison exactly if its text is that of a comparison, and into a
membership exactly if its text is that of a membership; then the first `in` that can be one counts.
A comparison is told by its text alone, so the operators can be tried in any order. -/
theorem parse_eq_operands_iff (condition : String) :
    (∀ left op right, parse condition = .compare left op right ↔
      ∃ c : Comparison, c.text = trim condition.toList ∧ c.expr = .compare left op right) ∧
    Function.Injective Comparison.text ∧
    (∀ trials : List CompareOp, (∀ op, op ∈ trials) → ∀ op,
      trials.find? (·.Matches (trim condition.toList)) = some op ↔
        ∃ left right, parse condition = .compare left op right) ∧
    (∀ needle haystack, parse condition = .isIn needle haystack ↔
      ∃ m : Membership, m.text = trim condition.toList ∧ m.IsFirst ∧
        m.expr = .isIn needle haystack) ∧
    ∀ (m : Membership) (c : Comparison), m.text ≠ c.text := by
  refine ⟨fun _ _ _ => parseChars_eq_compare_iff, Comparison.text_injective, ?_,
    fun _ _ => parseChars_eq_isIn_iff, ?_⟩
  · intro trials htrials op
    rw [find?_matches_eq_some_iff htrials]
    constructor
    · rintro ⟨c, htext, rfl⟩
      exact ⟨_, _, parseChars_eq_compare_iff.2 ⟨c, htext, rfl⟩⟩
    · rintro ⟨left, right, hparse⟩
      obtain ⟨c, htext, hexpr⟩ := parseChars_eq_compare_iff.1 hparse
      exact ⟨c, htext, (Expr.compare.inj hexpr).2.1⟩
  · intro m c htext
    have hcmp := m.comparison?_text
    rw [htext, c.comparison?_text] at hcmp
    simp at hcmp

theorem parse_first_in_any_order :
    (∃ m : Membership, m.text = "' in ' in state.tags in [1]".toList ∧ m.IsFirst ∧
      m.expr = .isIn "' in '" "state.tags in [1]") ∧
    CompareOp.all.reverse.find? (·.Matches (trim " state.n >='<' ".toList)) = some .gte := by
  obtain ⟨-, -, -, hmembership, -⟩ := parse_eq_operands_iff "' in ' in state.tags in [1]"
  obtain ⟨-, -, horder, -⟩ := parse_eq_operands_iff " state.n >='<' "
  refine ⟨?_, (horder _ (fun op => by cases op <;> decide) .gte).2 ?_⟩
  · have hparse : parse "' in ' in state.tags in [1]" = .isIn "' in '" "state.tags in [1]" := by
      decide +kernel
    obtain ⟨m, htext, hfirst, hexpr⟩ := (hmembership _ _).1 hparse
    have htrim : trim "' in ' in state.tags in [1]".toList =
        "' in ' in state.tags in [1]".toList := by decide +kernel
    exact ⟨m, htext.trans htrim, hfirst, hexpr⟩
  · exact ⟨"state.n", "'<'", by decide +kernel⟩

end WorkflowGraph.Condition
