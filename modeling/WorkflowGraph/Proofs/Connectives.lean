import WorkflowGraph.Condition.Evaluation
import WorkflowGraph.Proofs.Quoting
set_option autoImplicit false

namespace WorkflowGraph.Condition

open Text (isBlank trim trimStart trimEnd Visible)

variable {plain : Char → Prop} {literal : List Char → Prop} {xs ys cs left right : List Char}
  {d : Char}

def Unconnected (cs : List Char) : Prop :=
  Closed (fun c => c ≠ '&' ∧ c ≠ '|') (fun _ => True) cs

theorem Atoms.unconnected (h : Atoms cs) : Unconnected cs := by
  refine h.mono (fun c hc => ?_) fun _ hcontent => hcontent
  constructor <;> rintro rfl <;> simp [isOperatorChar] at hc

theorem unconnected_spelling {op : CompareOp} {sign : List Char} (h : sign ∈ op.spellings) :
    Unconnected sign := by
  have hall : ∀ sign ∈ op.spellings, ∀ c ∈ sign, isQuote c = false ∧ c ≠ '&' ∧ c ≠ '|' := by
    cases op <;> simp [CompareOp.spellings, isQuote]
  exact .of_plain (fun c hc => (hall sign h c hc).1) fun c hc => (hall sign h c hc).2

theorem unconnected_of_comparison? {op : CompareOp}
    (h : comparison? cs = some (left, op, right)) : Unconnected cs := by
  obtain ⟨hleft, -, hright, -, sign, hsign, rfl⟩ := comparison?_eq_some h
  exact hleft.unconnected.append ((unconnected_spelling hsign).append hright.unconnected)

theorem unconnected_of_membership? (h : membership? cs = some (left, right)) :
    Unconnected cs := by
  unfold membership? at h
  split at h
  · rename_i hatoms
    exact (atoms_of_isAtoms hatoms).unconnected
  · simp at h

theorem not_unconnected (hx : Closed plain literal xs) (hd : d = '&' ∨ d = '|') :
    ¬ Unconnected (xs ++ d :: ys) := by
  intro h
  have hquote : isQuote d = false := by
    rcases hd with rfl | rfl <;> decide
  have hmem : d ∈ outside (xs ++ d :: ys) := by
    rw [hx.outside_append, outside_cons hquote]
    exact List.mem_append_right _ List.mem_cons_self
  have hplain := h.plain_of_mem_outside d hmem
  rcases hd with rfl | rfl
  · exact hplain.1 rfl
  · exact hplain.2 rfl

theorem comparison?_eq_none_of_not_unconnected (h : ¬ Unconnected cs) :
    comparison? cs = none := by
  cases hcs : comparison? cs with
  | none => rfl
  | some p => exact absurd (unconnected_of_comparison? hcs) h

theorem membership?_eq_none_of_not_unconnected (h : ¬ Unconnected cs) :
    membership? cs = none := by
  cases hcs : membership? cs with
  | none => rfl
  | some p => exact absurd (unconnected_of_membership? hcs) h

theorem cutAtPair?_cons_of_ne {c : Char} (h : c ≠ d) (rest : List Char) :
    cutAtPair? d (c :: rest) = (cutAtPair? d rest).map fun p => (c :: p.1, p.2) := by
  cases rest with
  | nil => rfl
  | cons b rest => rw [cutAtPair?, if_neg fun hpair => h hpair.1]

theorem cutAtPair?_append_cons {content : List Char} (hpair : ¬ [d, d] <:+: content) {q : Char}
    (hq : q ≠ d) (rest : List Char) :
    cutAtPair? d (content ++ q :: rest) =
      (cutAtPair? d rest).map fun p => (content ++ q :: p.1, p.2) := by
  induction content with
  | nil => exact cutAtPair?_cons_of_ne hq rest
  | cons c content ih =>
    have ih' := ih fun hmore => hpair (hmore.trans (List.suffix_cons c content).isInfix)
    -- A pair at the front would end in `q` or lie within the text.
    have hfirst : ∀ b more, content ++ q :: rest = b :: more → ¬ (c = d ∧ b = d) := by
      rintro b more heq ⟨rfl, rfl⟩
      cases content with
      | nil => exact hq (List.cons.inj heq).1
      | cons a content =>
        obtain rfl := (List.cons.inj heq).1
        exact hpair ⟨[], content, rfl⟩
    cases hrest : content ++ q :: rest with
    | nil => simp at hrest
    | cons b more =>
      rw [List.cons_append, hrest, cutAtPair?, if_neg (hfirst b more hrest), ← hrest, ih',
        Option.map_map]
      rfl

/-- Nothing in the text can be taken for the connective of twice `d`. -/
def SafeFrom (d : Char) (cs : List Char) : Prop :=
  Closed (· ≠ d) (fun content => ¬ [d, d] <:+: content) cs

theorem SafeFrom.cutAtPair?_append (h : SafeFrom d xs) (hd : isQuote d = false)
    (ys : List Char) :
    cutAtPair? d (xs ++ ys) = (cutAtPair? d ys).map fun p => (xs ++ p.1, p.2) := by
  induction h with
  | nil => simp
  | @char c rest _ hc _ ih =>
    rw [List.cons_append, cutAtPair?_cons_of_ne hc, ih, Option.map_map]
    rfl
  | @quoted q content rest hquote _ hpair _ ih =>
    have hq := ne_of_isQuote hquote hd
    rw [List.cons_append, List.append_assoc, List.cons_append, cutAtPair?_cons_of_ne hq,
      cutAtPair?_append_cons hpair hq, ih, Option.map_map, Option.map_map]
    congr 1
    funext p
    simp

theorem cutAtPair?_eq_none_iff : cutAtPair? d cs = none ↔ ¬ [d, d] <:+: cs := by
  constructor
  · rintro h ⟨before, after, rfl⟩
    induction before with
    | nil => simp [cutAtPair?] at h
    | cons c before ih =>
      refine ih ?_
      rw [List.append_assoc, List.cons_append] at h
      cases hrest : before ++ ([d, d] ++ after) with
      | nil => simp at hrest
      | cons b more =>
        rw [hrest, cutAtPair?] at h
        split at h
        · simp at h
        · rw [List.append_assoc, hrest]
          exact Option.map_eq_none_iff.1 h
  · intro h
    cases hcut : cutAtPair? d cs with
    | none => rfl
    | some p =>
      refine absurd ⟨p.1, p.2, ?_⟩ h
      rw [cutAtPair?_eq hcut, List.append_assoc]
      rfl

theorem SafeFrom.no_pair (h : SafeFrom d xs) (hd : isQuote d = false) :
    ¬ [d, d] <:+: xs := by
  have hcut := h.cutAtPair?_append hd []
  rw [List.append_nil] at hcut
  exact cutAtPair?_eq_none_iff.1 hcut

/-- The connective after a safe text is the one at which the whole is cut. -/
theorem connective?_append (hx : SafeFrom d xs) (hd : isQuote d = false) (hne : xs ≠ [])
    (hys : ys ≠ []) : connective? d (xs ++ d :: d :: ys) = some (xs, ys) := by
  have hcut : cutAtPair? d (xs ++ d :: d :: ys) = some (xs, ys) := by
    rw [hx.cutAtPair?_append hd]
    simp [cutAtPair?]
  cases xs with
  | nil => exact absurd rfl hne
  | cons c xs =>
    have hc : c ≠ d := by
      cases hx with
      | char _ hc _ => exact hc
      | quoted hquote _ _ _ => exact ne_of_isQuote hquote hd
    rw [List.cons_append, cutAtPair?_cons_of_ne hc] at hcut
    obtain ⟨p, hp, heq⟩ := Option.map_eq_some_iff.1 hcut
    obtain ⟨hfirst, hsecond⟩ := Prod.mk.inj heq
    rw [List.cons_append, connective?, hp]
    dsimp only
    rw [if_neg (by simpa [hsecond] using hys), hfirst, hsecond]

theorem connective?_of_no_pair (h : ¬ [d, d] <:+: cs) : connective? d cs = none := by
  cases cs with
  | nil => rfl
  | cons c rest =>
    have hrest : ¬ [d, d] <:+: rest := fun hmore =>
      h (hmore.trans (List.suffix_cons c rest).isInfix)
    rw [connective?, cutAtPair?_eq_none_iff.2 hrest]

theorem exists_cutAtPair? (xs ys : List Char) :
    ∃ p, cutAtPair? d (xs ++ d :: d :: ys) = some p ∧ p.1.length ≤ xs.length := by
  induction xs with
  | nil => exact ⟨([], ys), by simp [cutAtPair?], Nat.le_refl _⟩
  | cons c xs ih =>
    obtain ⟨p, hp, hlength⟩ := ih
    cases hrest : xs ++ d :: d :: ys with
    | nil => simp at hrest
    | cons b more =>
      rw [List.cons_append, hrest, cutAtPair?, ← hrest, hp]
      split
      · exact ⟨_, rfl, Nat.zero_le _⟩
      · exact ⟨_, rfl, Nat.succ_le_succ hlength⟩

/-- Where a connective stands between two texts, the whole is cut there or before. -/
theorem exists_connective? (hleft : left ≠ []) (hright : right ≠ []) :
    ∃ p, connective? d (left ++ d :: d :: right) = some p ∧ p.1.length ≤ left.length := by
  obtain ⟨c, left, rfl⟩ := List.exists_cons_of_ne_nil hleft
  obtain ⟨p, hp, hlength⟩ := exists_cutAtPair? (d := d) left right
  have hne : p.2 ≠ [] := by
    have htotal := congrArg List.length (cutAtPair?_eq hp)
    have hpos := List.length_pos_iff.2 hright
    simp only [List.length_append, List.length_cons] at htotal
    exact List.length_pos_iff.1 (by omega)
  refine ⟨(c :: p.1, p.2), ?_, Nat.succ_le_succ hlength⟩
  rw [List.cons_append, connective?, hp]
  simp [hne]

theorem cutAtPair?_of_connective? {c : Char} (h : connective? d (c :: cs) = some (left, right)) :
    ∃ left', left = c :: left' ∧ cutAtPair? d cs = some (left', right) := by
  rw [connective?] at h
  split at h
  · split at h
    · simp at h
    · obtain ⟨rfl, rfl⟩ := Prod.mk.inj (Option.some.inj h)
      rename_i left' right' hcut _
      exact ⟨left', rfl, hcut⟩
  · simp at h

theorem Closed.of_cutAtPair? (h : Closed plain literal cs) (hd : isQuote d = false)
    (hliteral : ∀ content, literal content → ¬ [d, d] <:+: content)
    (hcut : cutAtPair? d cs = some (left, right)) :
    Closed plain literal left ∧ Closed plain literal right := by
  induction h generalizing left with
  | nil => simp [cutAtPair?] at hcut
  | @char c rest hquote hc hrest ih =>
    cases rest with
    | nil => simp [cutAtPair?] at hcut
    | cons b more =>
      rw [cutAtPair?] at hcut
      split at hcut
      · rename_i hpair
        obtain ⟨rfl, rfl⟩ := hpair
        obtain ⟨rfl, rfl⟩ := Prod.mk.inj (Option.some.inj hcut)
        exact ⟨.nil, (hrest.of_cons hquote).2⟩
      · obtain ⟨p, hp, heq⟩ := Option.map_eq_some_iff.1 hcut
        obtain ⟨rfl, rfl⟩ := Prod.mk.inj heq
        obtain ⟨hl, hr⟩ := ih hp
        exact ⟨.char hquote hc hl, hr⟩
  | @quoted q content rest hquote hmem hcontent _ ih =>
    have hq := ne_of_isQuote hquote hd
    rw [cutAtPair?_cons_of_ne hq, cutAtPair?_append_cons (hliteral _ hcontent) hq,
      Option.map_map] at hcut
    obtain ⟨p, hp, heq⟩ := Option.map_eq_some_iff.1 hcut
    obtain ⟨rfl, rfl⟩ := Prod.mk.inj heq
    obtain ⟨hl, hr⟩ := ih hp
    exact ⟨.quoted hquote hmem hcontent hl, hr⟩

theorem Closed.of_connective? (h : Closed plain literal cs) (hd : isQuote d = false)
    (hliteral : ∀ content, literal content → ¬ [d, d] <:+: content)
    (hcut : connective? d cs = some (left, right)) :
    Closed plain literal left ∧ Closed plain literal right := by
  cases h with
  | nil => simp [connective?] at hcut
  | @char c rest hquote hc hrest =>
    obtain ⟨left, rfl, hpair⟩ := cutAtPair?_of_connective? hcut
    obtain ⟨hl, hr⟩ := hrest.of_cutAtPair? hd hliteral hpair
    exact ⟨.char hquote hc hl, hr⟩
  | @quoted q content rest hquote hmem hcontent hrest =>
    have hq := ne_of_isQuote hquote hd
    obtain ⟨left, rfl, hpair⟩ := cutAtPair?_of_connective? hcut
    rw [cutAtPair?_append_cons (hliteral _ hcontent) hq] at hpair
    obtain ⟨p, hp, heq⟩ := Option.map_eq_some_iff.1 hpair
    obtain ⟨rfl, rfl⟩ := Prod.mk.inj heq
    obtain ⟨hl, hr⟩ := hrest.of_cutAtPair? hd hliteral hp
    exact ⟨.quoted hquote hmem hcontent hl, hr⟩

theorem parseChars_congr (h : trim xs = trim ys) : parseChars xs = parseChars ys := by
  rw [parseChars, parseChars, h]

theorem parseChars_trimStart (cs : List Char) : parseChars (trimStart cs) = parseChars cs :=
  parseChars_congr (Text.trim_trimStart cs)

theorem parseChars_trimEnd (cs : List Char) : parseChars (trimEnd cs) = parseChars cs :=
  parseChars_congr (Text.trim_trimEnd cs)

theorem parseChars_of_no_operands (hne : trim cs ≠ []) (hcmp : comparison? (trim cs) = none)
    (hmem : membership? (trim cs) = none) :
    parseChars cs =
      match connective? '&' (trim cs) with
      | some (left, right) => .and (parseChars left) (parseChars right)
      | none =>
        match connective? '|' (trim cs) with
        | some (left, right) => .or (parseChars left) (parseChars right)
        | none =>
          match negation? (trim cs) with
          | some inner => .not (parseChars inner)
          | none => .unsupported (String.ofList (trim cs)) := by
  rw [parseChars, if_neg (by simpa using hne), hcmp, hmem]
  dsimp only
  cases hand : connective? '&' (trim cs) with
  | some p => rfl
  | none =>
    cases hor : connective? '|' (trim cs) with
    | some p => rfl
    | none =>
      cases hnot : negation? (trim cs) with
      | some p => rfl
      | none => rfl

theorem isInfix_trim (cs : List Char) : trim cs <:+: cs :=
  (Text.isPrefix_trimEnd _).isInfix.trans (Text.isSuffix_trimStart cs).isInfix

theorem parseChars_and (hxs : SafeFrom '&' xs) (hx : Visible xs) (hy : Visible ys) :
    parseChars (xs ++ '&' :: '&' :: ys) = .and (parseChars xs) (parseChars ys) := by
  have htrim : trim (xs ++ '&' :: '&' :: ys) = trimStart xs ++ '&' :: '&' :: trimEnd ys :=
    Text.trim_append hx ['&', '&'] hy
  have hconnected : ¬ Unconnected (trim (xs ++ '&' :: '&' :: ys)) := by
    rw [htrim]
    exact not_unconnected hxs.trimStart (.inl rfl)
  have hcut : connective? '&' (trim (xs ++ '&' :: '&' :: ys)) =
      some (trimStart xs, trimEnd ys) := by
    rw [htrim]
    exact connective?_append hxs.trimStart (by decide) hx.trimStart_ne_nil hy.trimEnd_ne_nil
  rw [parseChars_of_no_operands (by simp [htrim])
      (comparison?_eq_none_of_not_unconnected hconnected)
      (membership?_eq_none_of_not_unconnected hconnected), hcut]
  dsimp only
  rw [parseChars_trimStart, parseChars_trimEnd]

theorem parseChars_or (hxs : SafeFrom '|' xs) (hx : Visible xs) (hy : Visible ys)
    (hand : ¬ ['&', '&'] <:+: xs ++ '|' :: '|' :: ys) :
    parseChars (xs ++ '|' :: '|' :: ys) = .or (parseChars xs) (parseChars ys) := by
  have htrim : trim (xs ++ '|' :: '|' :: ys) = trimStart xs ++ '|' :: '|' :: trimEnd ys :=
    Text.trim_append hx ['|', '|'] hy
  have hconnected : ¬ Unconnected (trim (xs ++ '|' :: '|' :: ys)) := by
    rw [htrim]
    exact not_unconnected hxs.trimStart (.inr rfl)
  have hnocut : connective? '&' (trim (xs ++ '|' :: '|' :: ys)) = none :=
    connective?_of_no_pair fun hpair => hand (hpair.trans (isInfix_trim _))
  have hcut : connective? '|' (trim (xs ++ '|' :: '|' :: ys)) =
      some (trimStart xs, trimEnd ys) := by
    rw [htrim]
    exact connective?_append hxs.trimStart (by decide) hx.trimStart_ne_nil hy.trimEnd_ne_nil
  rw [parseChars_of_no_operands (by simp [htrim])
      (comparison?_eq_none_of_not_unconnected hconnected)
      (membership?_eq_none_of_not_unconnected hconnected), hnocut, hcut]
  dsimp only
  rw [parseChars_trimStart, parseChars_trimEnd]

theorem parseChars_not (hx : Visible xs) (hand : ¬ ['&', '&'] <:+: '!' :: xs)
    (hor : ¬ ['|', '|'] <:+: '!' :: xs) : parseChars ('!' :: xs) = .not (parseChars xs) := by
  have htrim : trim ('!' :: xs) = '!' :: trimEnd xs := by
    rw [trim, Text.trimStart_cons_of_not_blank (by decide),
      Text.trimEnd_cons_of_not_blank _ (by decide)]
  have hspan : spanAtoms ('!' :: trimEnd xs) = ([], '!' :: trimEnd xs) := by
    rw [spanAtoms, if_neg (by decide), if_pos (by decide)]
  have hcmp : comparison? (trim ('!' :: xs)) = none := by
    rw [htrim, comparison?, hspan]
    dsimp only
    split <;> simp
  have hmem : membership? (trim ('!' :: xs)) = none := by
    rw [htrim, membership?, isAtoms, hspan]
    rfl
  have hnot : negation? (trim ('!' :: xs)) = some (trimEnd xs) := by
    rw [htrim]
    cases hend : trimEnd xs with
    | nil => exact absurd hend hx.trimEnd_ne_nil
    | cons c rest => rfl
  rw [parseChars_of_no_operands (by simp [htrim]) hcmp hmem,
    connective?_of_no_pair fun hpair => hand (hpair.trans (isInfix_trim _)),
    connective?_of_no_pair fun hpair => hor (hpair.trans (isInfix_trim _)), hnot]
  dsimp only
  rw [parseChars_trimEnd]

end WorkflowGraph.Condition
