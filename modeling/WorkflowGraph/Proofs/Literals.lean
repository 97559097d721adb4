import WorkflowGraph.Proofs.Spelling
set_option autoImplicit false

namespace WorkflowGraph.Condition

open Text (isBlank trim trimStart trimEnd)

def Expr.shape : Expr → Expr
  | .always => .always
  | .compare _ op _ => .compare "" op ""
  | .isIn _ _ => .isIn "" ""
  | .and left right => .and left.shape right.shape
  | .or left right => .or left.shape right.shape
  | .not inner => .not inner.shape
  | .unsupported _ => .unsupported ""

/-- The texts differ only within quotes, and every quote closes. -/
inductive Alike : List Char → List Char → Prop
  | nil : Alike [] []
  | char {c : Char} {xs ys : List Char} : isQuote c = false → Alike xs ys →
      Alike (c :: xs) (c :: ys)
  | quoted {q : Char} {content content' xs ys : List Char} : isQuote q = true → q ∉ content →
      q ∉ content' → Alike xs ys → Alike (q :: (content ++ q :: xs)) (q :: (content' ++ q :: ys))

/-- Every quote closes, in the text and in all that the parser cuts it into. -/
inductive ClosedThroughout : List Char → Prop
  | intro {cs : List Char} : Closed (fun _ => True) (fun _ => True) cs →
      (∀ part ∈ subconditions cs, ClosedThroughout part) → ClosedThroughout cs

variable {plain : Char → Prop} {literal : List Char → Prop} {xs ys zs cs left right : List Char}
  {d : Char}

namespace Alike

theorem symm (h : Alike xs ys) : Alike ys xs := by
  induction h with
  | nil => exact .nil
  | char hquote _ ih => exact .char hquote ih
  | quoted hquote hmem hmem' _ ih => exact .quoted hquote hmem' hmem ih

theorem of_closed (h : Closed plain literal xs) : Alike xs xs := by
  induction h with
  | nil => exact .nil
  | char hquote _ _ ih => exact .char hquote ih
  | quoted hquote hmem _ _ ih => exact .quoted hquote hmem hmem ih

theorem closed (h : Alike xs ys) : Closed (fun _ => True) (fun _ => True) xs := by
  induction h with
  | nil => exact .nil
  | char hquote _ ih => exact .char hquote trivial ih
  | quoted hquote hmem _ _ ih => exact .quoted hquote hmem trivial ih

theorem append {xs' ys' : List Char} (h : Alike xs xs') (h' : Alike ys ys') :
    Alike (xs ++ ys) (xs' ++ ys') := by
  induction h with
  | nil => exact h'
  | char hquote _ ih => exact .char hquote ih
  | quoted hquote hmem hmem' _ ih =>
    simp only [List.cons_append, List.append_assoc]
    exact .quoted hquote hmem hmem' ih

theorem replace {q : Char} {before after content content' : List Char}
    (hbefore : Closed plain literal before) (hafter : Closed plain literal after)
    (hquote : isQuote q = true) (hmem : q ∉ content) (hmem' : q ∉ content') :
    Alike (before ++ q :: (content ++ q :: after)) (before ++ q :: (content' ++ q :: after)) :=
  (of_closed hbefore).append (.quoted hquote hmem hmem' (of_closed hafter))

theorem of_cons {c : Char} (hquote : isQuote c = false) (h : Alike (c :: xs) zs) :
    ∃ ys, zs = c :: ys ∧ Alike xs ys := by
  cases h with
  | char _ h => exact ⟨_, rfl, h⟩
  | quoted hquote' => simp [hquote] at hquote'

theorem of_quoted {q : Char} {content : List Char} (hquote : isQuote q = true)
    (hmem : q ∉ content) (h : Alike (q :: (content ++ q :: xs)) zs) :
    ∃ content' ys, q ∉ content' ∧ zs = q :: (content' ++ q :: ys) ∧ Alike xs ys := by
  generalize htext : content ++ q :: xs = text at h
  cases h with
  | char hquote' => simp [hquote] at hquote'
  | @quoted _ content₂ content' xs₂ ys _ hmem₂ hmem' h =>
    have hcut := cutAt?_append hmem xs
    rw [htext, cutAt?_append hmem₂ xs₂] at hcut
    obtain ⟨-, rfl⟩ := Prod.mk.inj (Option.some.inj hcut)
    exact ⟨content', ys, hmem', rfl, h⟩

/-- A part in which every quote closes has its counterpart in the other text. -/
theorem split (hx : Closed plain literal xs) (h : Alike (xs ++ ys) zs) :
    ∃ xs' ys', zs = xs' ++ ys' ∧ Alike xs xs' ∧ Alike ys ys' := by
  induction hx generalizing zs with
  | nil => exact ⟨[], zs, rfl, .nil, h⟩
  | @char c rest hquote _ _ ih =>
    obtain ⟨zs, rfl, hrest⟩ := h.of_cons hquote
    obtain ⟨xs', ys', rfl, hx, hy⟩ := ih hrest
    exact ⟨c :: xs', ys', rfl, .char hquote hx, hy⟩
  | @quoted q content rest hquote hmem _ _ ih =>
    rw [List.cons_append, List.append_assoc, List.cons_append] at h
    obtain ⟨content', zs, hmem', rfl, hrest⟩ := h.of_quoted hquote hmem
    obtain ⟨xs', ys', rfl, hx, hy⟩ := ih hrest
    exact ⟨q :: (content' ++ q :: xs'), ys', by simp, .quoted hquote hmem hmem' hx, hy⟩

theorem ne_nil (h : Alike xs ys) (hne : xs ≠ []) : ys ≠ [] := by
  cases h with
  | nil => exact absurd rfl hne
  | char => simp
  | quoted => simp

theorem eq_of_unquoted (h : Alike xs ys) (hquote : ∀ c ∈ xs, isQuote c = false) : ys = xs := by
  induction h with
  | nil => rfl
  | char _ _ ih => rw [ih fun c hc => hquote c (List.mem_cons_of_mem _ hc)]
  | @quoted q _ _ _ _ hq => simp [hquote q List.mem_cons_self] at hq

theorem atoms (h : Alike xs ys) (hx : Atoms xs) : Atoms ys := by
  induction h with
  | nil => exact hx
  | char hquote _ ih =>
    obtain ⟨hop, hrest⟩ := hx.of_cons hquote
    exact .char hquote hop (ih hrest)
  | quoted hquote hmem hmem' _ ih =>
    exact .quoted hquote hmem' trivial (ih (hx.of_quoted hquote hmem).2)

theorem outside_eq (h : Alike xs ys) : outside xs = outside ys := by
  induction h with
  | nil => rfl
  | char hquote _ ih => rw [outside_cons hquote, outside_cons hquote, ih]
  | quoted hquote hmem hmem' _ ih =>
    rw [outside_quoted hquote hmem, outside_quoted hquote hmem', ih]

theorem trimStart (h : Alike xs ys) : Alike (trimStart xs) (trimStart ys) := by
  induction h with
  | nil => exact .nil
  | @char c xs ys hquote h ih =>
    cases hc : isBlank c with
    | true => rwa [Text.trimStart_cons_of_blank hc, Text.trimStart_cons_of_blank hc]
    | false =>
      rw [Text.trimStart_cons_of_not_blank hc, Text.trimStart_cons_of_not_blank hc]
      exact .char hquote h
  | quoted hquote hmem hmem' h _ =>
    have hq := isBlank_of_isQuote hquote
    rw [Text.trimStart_cons_of_not_blank hq, Text.trimStart_cons_of_not_blank hq]
    exact .quoted hquote hmem hmem' h

theorem trimEnd (h : Alike xs ys) : Alike (trimEnd xs) (trimEnd ys) := by
  induction h with
  | nil => exact .nil
  | @char c xs ys hquote _ ih =>
    rw [Text.trimEnd, Text.trimEnd]
    generalize Text.trimEnd xs = kept, Text.trimEnd ys = kept' at ih
    cases ih with
    | nil => cases isBlank c with
      | true => exact .nil
      | false => exact .char hquote .nil
    | char hquote' h => exact .char hquote (.char hquote' h)
    | quoted hquote' hmem hmem' h => exact .char hquote (.quoted hquote' hmem hmem' h)
  | quoted hquote hmem hmem' _ ih =>
    rw [Text.trimEnd_quoted (isBlank_of_isQuote hquote),
      Text.trimEnd_quoted (isBlank_of_isQuote hquote)]
    exact .quoted hquote hmem hmem' ih

theorem trim (h : Alike xs ys) : Alike (trim xs) (trim ys) := h.trimStart.trimEnd

theorem exists_comparison (c : Comparison) (h : Alike c.text ys) :
    ∃ c' : Comparison, c'.text = ys ∧ c'.op = c.op := by
  obtain ⟨left, rest, rfl, hleft, hrest⟩ := h.split c.atoms_left
  obtain ⟨sign, right, rfl, hsign, hright⟩ := hrest.split (unconnected_spelling c.sign_mem)
  obtain rfl : sign = c.sign := hsign.eq_of_unquoted fun a ha =>
    (of_isOperatorChar ((operatorChar_of_mem_spellings c.sign_mem).2 a ha)).1
  exact ⟨⟨left, c.op, c.sign, right, hleft.ne_nil c.left_ne_nil, hleft.atoms c.atoms_left,
    c.sign_mem, hright.ne_nil c.right_ne_nil, hright.atoms c.atoms_right⟩, rfl, rfl⟩

theorem exists_membership (m : Membership) (h : Alike m.text ys) :
    ∃ m' : Membership, m'.text = ys := by
  rw [m.text_eq] at h
  obtain ⟨needle, rest, rfl, hneedle, hrest⟩ := h.split m.atoms_needle
  obtain ⟨word, haystack, rfl, hword, hhaystack⟩ :=
    hrest.split (atoms_in m.blank_before m.blank_after)
  obtain rfl : word = m.before ++ 'i' :: 'n' :: m.after := by
    refine hword.eq_of_unquoted fun c hc => ?_
    rcases List.mem_append.1 hc with hc | hc
    · exact isQuote_of_isBlank (m.blank_before c hc)
    · rcases List.mem_cons.1 hc with rfl | hc
      · decide
      · rcases List.mem_cons.1 hc with rfl | hc
        · decide
        · exact isQuote_of_isBlank (m.blank_after c hc)
  let m' : Membership := ⟨needle, m.before, m.after, haystack, hneedle.ne_nil m.needle_ne_nil,
    hneedle.atoms m.atoms_needle, m.before_ne_nil, m.blank_before, m.after_ne_nil, m.blank_after,
    hhaystack.ne_nil m.haystack_ne_nil, hhaystack.atoms m.atoms_haystack⟩
  exact ⟨m', m'.text_eq⟩

theorem comparison?_op (h : Alike xs ys) :
    (comparison? xs).map (·.2.1) = (comparison? ys).map (·.2.1) := by
  have himp : ∀ {xs ys}, Alike xs ys → ∀ op : CompareOp, op.Matches xs → op.Matches ys := by
    rintro xs ys h op ⟨c, rfl, rfl⟩
    exact h.exists_comparison c
  refine Option.ext fun op => ?_
  rw [← matches_iff, ← matches_iff]
  exact ⟨himp h op, himp h.symm op⟩

theorem isSome_membership? (h : Alike xs ys) :
    (membership? (Text.trim xs)).isSome ↔ (membership? (Text.trim ys)).isSome := by
  have himp : ∀ {xs ys}, Alike xs ys → (membership? (Text.trim xs)).isSome →
      (membership? (Text.trim ys)).isSome := by
    intro xs ys h hsome
    obtain ⟨p, hp⟩ := Option.isSome_iff_exists.1 hsome
    obtain ⟨m, hm, -⟩ := exists_membership_of_membership? (Text.trim_trim xs) hp
    obtain ⟨m', hm'⟩ := Alike.exists_membership m (hm ▸ h.trim)
    obtain ⟨other, -, -, hother⟩ := m'.exists_membership? (by rw [hm', Text.trim_trim])
    rw [← hm', hother]
    rfl
  exact ⟨himp h, himp h.symm⟩

end Alike

/-- Of two places outside of quotes, the later one has more outside of quotes before it. -/
theorem length_outside_lt {xs' ys' : List Char} (hd : isQuote d = false)
    (hxs : Closed plain literal xs) (h : xs ++ d :: ys = xs' ++ d :: ys')
    (hlt : xs.length < xs'.length) : (outside xs).length < (outside xs').length := by
  rcases List.append_eq_append_iff.1 h with ⟨more, rfl, hmore⟩ | ⟨more, rfl, -⟩
  · cases more with
    | nil => simp at hlt
    | cons c more =>
      obtain rfl := (List.cons.inj hmore).1
      rw [hxs.outside_append, outside_cons hd]
      simp
  · simp only [List.length_append] at hlt
    omega

theorem length_outside_le_of_connective? (hd : isQuote d = false)
    (hcut : connective? d cs = some (left, right)) (hclosed : Closed plain literal left)
    (hcs : cs = xs ++ d :: d :: ys) (hxs : xs ≠ []) (hys : ys ≠ []) :
    (outside left).length ≤ (outside xs).length := by
  obtain ⟨p, hp, hle⟩ := exists_connective? (d := d) hxs hys
  rw [← hcs, hcut] at hp
  obtain rfl := Option.some.inj hp
  have htext : left ++ d :: d :: right = xs ++ d :: d :: ys :=
    (connective?_eq hcut).1.symm.trans hcs
  rcases Nat.lt_or_eq_of_le hle with hlt | heq
  · exact Nat.le_of_lt (length_outside_lt hd hclosed htext hlt)
  · rw [(List.append_inj htext heq).1]

theorem rel_of_exists {α β : Type} {rel : α → β → Prop} {a : Option α} {b : Option β}
    (hsome : ∀ x, a = some x → ∃ y, b = some y ∧ rel x y) (hb : ∀ y, b = some y → ∃ x, a = some x) :
    Option.Rel rel a b := by
  cases a with
  | some x =>
    obtain ⟨y, rfl, hxy⟩ := hsome x rfl
    exact .some hxy
  | none =>
    cases b with
    | none => exact .none
    | some y =>
      obtain ⟨x, hx⟩ := hb y rfl
      simp at hx

namespace Alike

/-- The sides of a connective outside of quotes have their counterparts in the other text. -/
theorem split_pair (hd : isQuote d = false) (hleft : Closed plain literal left)
    (h : Alike (left ++ d :: d :: right) zs) :
    ∃ left' right', zs = left' ++ d :: d :: right' ∧ Alike left left' ∧ Alike right right' := by
  obtain ⟨left', rest, rfl, hl, hrest⟩ := h.split hleft
  obtain ⟨more, rfl, hmore⟩ := hrest.of_cons hd
  obtain ⟨right', rfl, hr⟩ := hmore.of_cons hd
  exact ⟨left', right', rfl, hl, hr⟩

theorem exists_sides (h : Alike xs ys) (hd : isQuote d = false)
    (hxs : connective? d xs = some (left, right)) (hleft : Closed plain literal left)
    (hys : ∀ p, connective? d ys = some p → Closed plain literal p.1) :
    ∃ left' right', connective? d ys = some (left', right') ∧ Alike left left' ∧
      Alike right right' := by
  obtain ⟨hxs_eq, hlne, hrne⟩ := connective?_eq hxs
  obtain ⟨left', right', hys_eq, hl, hr⟩ := (hxs_eq ▸ h).split_pair hd hleft
  obtain ⟨⟨first, second⟩, hcut, hle⟩ :=
    exists_connective? (d := d) (hl.ne_nil hlne) (hr.ne_nil hrne)
  rw [← hys_eq] at hcut
  have hfirst := hys _ hcut
  obtain ⟨hcut_eq, hfne, hsne⟩ := connective?_eq hcut
  obtain ⟨first', second', hxs_eq', hf, hs⟩ := (hcut_eq ▸ h.symm).split_pair hd hfirst
  -- Neither text is cut before the counterpart of where the other is cut.
  have hlength : first.length = left'.length := by
    refine Nat.le_antisymm hle (Nat.le_of_not_lt fun hlt => ?_)
    have hless := length_outside_lt hd hfirst (hcut_eq.symm.trans hys_eq) hlt
    have hmost := length_outside_le_of_connective? hd hxs hleft hxs_eq' (hf.ne_nil hfne)
      (hs.ne_nil hsne)
    rw [hl.outside_eq, ← hf.outside_eq] at hmost
    omega
  obtain ⟨rfl, hrest⟩ := List.append_inj (hcut_eq.symm.trans hys_eq) hlength
  obtain rfl : second = right' := by simpa using hrest
  exact ⟨first, second, hcut, hl, hr⟩

/-- Two texts that are cut outside of quotes are both cut or both left whole. -/
theorem rel_connective? (h : Alike xs ys) (hd : isQuote d = false)
    (hxs : ∀ p, connective? d xs = some p → Closed plain literal p.1)
    (hys : ∀ p, connective? d ys = some p → Closed plain literal p.1) :
    Option.Rel (fun p p' => Alike p.1 p'.1 ∧ Alike p.2 p'.2)
      (connective? d xs) (connective? d ys) := by
  refine rel_of_exists (fun p hcut => ?_) fun p hcut => ?_
  · obtain ⟨left', right', hcut', hsides⟩ := h.exists_sides hd hcut (hxs p hcut) hys
    exact ⟨_, hcut', hsides⟩
  · obtain ⟨left', right', hcut', -⟩ := h.symm.exists_sides hd hcut (hys p hcut) hxs
    exact ⟨_, hcut'⟩

theorem exists_inner {inner : List Char} (h : Alike xs ys) (hxs : negation? xs = some inner) :
    ∃ inner', negation? ys = some inner' ∧ Alike inner inner' := by
  obtain ⟨rfl, hne⟩ := negation?_eq hxs
  obtain ⟨inner', rfl, hinner⟩ := h.of_cons (by decide)
  obtain ⟨c, rest, rfl⟩ := List.exists_cons_of_ne_nil (hinner.ne_nil hne)
  exact ⟨c :: rest, rfl, hinner⟩

theorem rel_negation? (h : Alike xs ys) : Option.Rel Alike (negation? xs) (negation? ys) := by
  refine rel_of_exists (fun inner hxs => h.exists_inner hxs) fun inner hys => ?_
  obtain ⟨inner', hxs, -⟩ := h.symm.exists_inner hys
  exact ⟨inner', hxs⟩

end Alike

namespace ClosedThroughout

theorem closed (h : ClosedThroughout cs) : Closed (fun _ => True) (fun _ => True) cs := by
  cases h with
  | intro hclosed _ => exact hclosed

theorem of_mem {part : List Char} (h : ClosedThroughout cs) (hpart : part ∈ subconditions cs) :
    ClosedThroughout part := by
  cases h with
  | intro _ hparts => exact hparts part hpart

end ClosedThroughout

namespace Alike

theorem comparison?_eq_none (h : Alike xs ys) (hcmp : comparison? (Text.trim xs) = none) :
    comparison? (Text.trim ys) = none := by
  have hop := h.trim.comparison?_op
  rwa [hcmp, Option.map_none, eq_comm, Option.map_eq_none_iff] at hop

theorem membership?_eq_none (h : Alike xs ys) (hmem : membership? (Text.trim xs) = none) :
    membership? (Text.trim ys) = none := by
  rw [← Option.not_isSome_iff_eq_none, ← h.isSome_membership?, hmem]
  simp

end Alike

namespace Alike

variable (h : Alike xs ys)
include h

theorem shape_of_blank (hxs : Text.trim xs = []) :
    (parseChars xs).shape = (parseChars ys).shape := by
  have htrim := h.trim
  rw [hxs] at htrim
  have hys : Text.trim ys = [] := htrim.eq_of_unquoted (by simp)
  rw [parseChars_eq_always_iff.2 ((Text.trim_eq_nil_iff xs).1 hxs),
    parseChars_eq_always_iff.2 ((Text.trim_eq_nil_iff ys).1 hys)]

theorem shape_of_comparison? {op : CompareOp}
    (hcmp : comparison? (Text.trim xs) = some (left, op, right)) :
    (parseChars xs).shape = (parseChars ys).shape := by
  have hop := h.trim.comparison?_op
  rw [hcmp] at hop
  obtain ⟨⟨left', op', right'⟩, hcmp', rfl⟩ := Option.map_eq_some_iff.1 hop.symm
  rw [parseChars_of_comparison? hcmp, parseChars_of_comparison? hcmp']
  rfl

theorem shape_of_membership? (hmem : membership? (Text.trim xs) = some (left, right)) :
    (parseChars xs).shape = (parseChars ys).shape := by
  obtain ⟨⟨left', right'⟩, hmem'⟩ :=
    Option.isSome_iff_exists.1 (h.isSome_membership?.1 (Option.isSome_of_eq_some hmem))
  rw [parseChars_of_membership? hmem, parseChars_of_membership? hmem']
  rfl

theorem shape_of_no_operands (hne : Text.trim xs ≠ [])
    (hcmp : comparison? (Text.trim xs) = none) (hmem : membership? (Text.trim xs) = none)
    (hxs : ∀ part ∈ subconditions xs, Closed plain literal part)
    (hys : ∀ part ∈ subconditions ys, Closed plain literal part)
    (hparts : ∀ part ∈ subconditions xs, ∀ part' ∈ subconditions ys, Alike part part' →
      (parseChars part).shape = (parseChars part').shape) :
    (parseChars xs).shape = (parseChars ys).shape := by
  have hcmp' := h.comparison?_eq_none hcmp
  have hmem' := h.membership?_eq_none hmem
  rw [parseChars_of_no_operands hne hcmp hmem,
    parseChars_of_no_operands (h.trim.ne_nil hne) hcmp' hmem']
  have hrel := h.trim.rel_connective? (d := '&') (by decide)
    (fun _ hcut => hxs _ (mem_subconditions_of_and hcmp hmem hcut).1)
    fun _ hcut => hys _ (mem_subconditions_of_and hcmp' hmem' hcut).1
  generalize hand : connective? '&' (Text.trim xs) = cut,
    hand' : connective? '&' (Text.trim ys) = cut' at hrel ⊢
  cases hrel with
  | some hsides =>
    obtain ⟨hl, hr⟩ := mem_subconditions_of_and hcmp hmem hand
    obtain ⟨hl', hr'⟩ := mem_subconditions_of_and hcmp' hmem' hand'
    dsimp only [Expr.shape]
    rw [hparts _ hl _ hl' hsides.1, hparts _ hr _ hr' hsides.2]
  | none =>
    have hrel := h.trim.rel_connective? (d := '|') (by decide)
      (fun _ hcut => hxs _ (mem_subconditions_of_or hcmp hmem hand hcut).1)
      fun _ hcut => hys _ (mem_subconditions_of_or hcmp' hmem' hand' hcut).1
    generalize hor : connective? '|' (Text.trim xs) = cut,
      hor' : connective? '|' (Text.trim ys) = cut' at hrel ⊢
    cases hrel with
    | some hsides =>
      obtain ⟨hl, hr⟩ := mem_subconditions_of_or hcmp hmem hand hor
      obtain ⟨hl', hr'⟩ := mem_subconditions_of_or hcmp' hmem' hand' hor'
      dsimp only [Expr.shape]
      rw [hparts _ hl _ hl' hsides.1, hparts _ hr _ hr' hsides.2]
    | none =>
      have hrel := h.trim.rel_negation?
      generalize hnot : negation? (Text.trim xs) = cut,
        hnot' : negation? (Text.trim ys) = cut' at hrel ⊢
      cases hrel with
      | some hinner =>
        have hpart := mem_subconditions_of_not hcmp hmem hand hor hnot
        have hpart' := mem_subconditions_of_not hcmp' hmem' hand' hor' hnot'
        dsimp only [Expr.shape]
        rw [hparts _ hpart _ hpart' hinner]
      | none => rfl

end Alike

theorem shape_parseChars_eq (hxs : ClosedThroughout xs) (h : Alike xs ys)
    (hys : ClosedThroughout ys) : (parseChars xs).shape = (parseChars ys).shape := by
  induction hxs generalizing ys with
  | @intro xs _ hparts ih =>
    by_cases hne : trim xs = []
    · exact h.shape_of_blank hne
    cases hcmp : comparison? (trim xs) with
    | some p => exact h.shape_of_comparison? hcmp
    | none =>
      cases hmem : membership? (trim xs) with
      | some p => exact h.shape_of_membership? hmem
      | none =>
        exact h.shape_of_no_operands hne hcmp hmem (fun part hpart => (hparts part hpart).closed)
          (fun part hpart => (hys.of_mem hpart).closed)
          fun part hpart part' hpart' halike => ih part hpart halike (hys.of_mem hpart')

def Unpaired (cs : List Char) : Prop := ¬ ['&', '&'] <:+: cs ∧ ¬ ['|', '|'] <:+: cs

instance (cs : List Char) : Decidable (Unpaired cs) :=
  inferInstanceAs (Decidable (¬ ['&', '&'] <:+: cs ∧ ¬ ['|', '|'] <:+: cs))

theorem closedThroughout_of_unpaired (h : Closed plain Unpaired cs) : ClosedThroughout cs := by
  induction acc_subconditions cs with
  | intro cs _ ih =>
    refine .intro (h.mono (fun _ _ => trivial) fun _ _ => trivial) fun part hpart =>
      ih part hpart ?_
    rcases cut_of_mem_subconditions hpart with ⟨d, left, right, hd, hcut, hside⟩ | hcut
    · have hsides : Closed plain Unpaired left ∧ Closed plain Unpaired right := by
        rcases hd with rfl | rfl
        · exact h.trim.of_connective? (by decide) (fun _ hcontent => hcontent.1) hcut
        · exact h.trim.of_connective? (by decide) (fun _ hcontent => hcontent.2) hcut
      rcases hside with rfl | rfl
      · exact hsides.1
      · exact hsides.2
    · have htrim := h.trim
      rw [(negation?_eq hcut).1] at htrim
      exact (htrim.of_cons (by decide)).2

/-- A text with operands is not cut, whatever stands within its quotes. -/
theorem closedThroughout_of_operands (h : Closed plain literal cs)
    (hoperands : (comparison? (trim cs)).isSome ∨ (membership? (trim cs)).isSome) :
    ClosedThroughout cs := by
  have hparts : subconditions cs = [] := by
    rw [subconditions, if_pos (by simpa using hoperands)]
  exact .intro (h.mono (fun _ _ => trivial) fun _ _ => trivial) (by simp [hparts])

/-- Texts that differ only within quotes are parsed into expressions of one shape, if neither is cut
within quotes. -/
theorem parse_shape_eq {condition other : String} (h : Alike condition.toList other.toList)
    (hcondition : ClosedThroughout condition.toList) (hother : ClosedThroughout other.toList) :
    (parse condition).shape = (parse other).shape :=
  shape_parseChars_eq hcondition h hother

theorem parse_operators_within_quotes :
    (parse "state.op == '&&'").shape = (parse "state.op == 'x'").shape ∧
    (parse "state.a == '<=' && state.b == 1").shape =
      (parse "state.a == ' in & ' && state.b == 1").shape := by
  constructor
  · have hstart : Closed (fun _ => True) (fun _ => True) "state.op == ".toList :=
      .of_plain (by simp [isQuote]) fun _ _ => trivial
    have halike := Alike.replace hstart .nil (by decide) (by decide : '\'' ∉ "&&".toList)
      (by decide : '\'' ∉ "x".toList)
    refine parse_shape_eq (by simpa using halike)
      (closedThroughout_of_operands (by simpa using halike.closed) (by decide +kernel))
      (closedThroughout_of_operands (by simpa using halike.symm.closed) (by decide +kernel))
  · have hstart : Closed (fun _ => True) Unpaired "state.a == ".toList :=
      .of_plain (by simp [isQuote]) fun _ _ => trivial
    have hend : Closed (fun _ => True) Unpaired " && state.b == 1".toList :=
      .of_plain (by simp [isQuote]) fun _ _ => trivial
    have hclosed : ∀ content, '\'' ∉ content → Unpaired content → ClosedThroughout
        ("state.a == ".toList ++ '\'' :: (content ++ '\'' :: " && state.b == 1".toList)) :=
      fun content hmem hcontent => closedThroughout_of_unpaired
        (hstart.append (.quoted (by decide) hmem hcontent hend))
    have halike := Alike.replace hstart hend (by decide) (by decide : '\'' ∉ "<=".toList)
      (by decide : '\'' ∉ " in & ".toList)
    exact parse_shape_eq (by simpa using halike)
      (by simpa using hclosed "<=".toList (by decide) (by decide +kernel))
      (by simpa using hclosed " in & ".toList (by decide) (by decide +kernel))

theorem parse_cut_within_quotes :
    Alike "state.a == 'x && y' && state.b == 1".toList "state.a == 'xy' && state.b == 1".toList ∧
    (parse "state.a == 'x && y' && state.b == 1").shape ≠
      (parse "state.a == 'xy' && state.b == 1").shape := by
  have hstart : Closed (fun _ => True) (fun _ => True) "state.a == ".toList :=
    .of_plain (by simp [isQuote]) fun _ _ => trivial
  have hend : Closed (fun _ => True) (fun _ => True) " && state.b == 1".toList :=
    .of_plain (by simp [isQuote]) fun _ _ => trivial
  have halike := Alike.replace hstart hend (by decide) (by decide : '\'' ∉ "x && y".toList)
    (by decide : '\'' ∉ "xy".toList)
  exact ⟨by simpa using halike, by decide +kernel⟩

end WorkflowGraph.Condition
