import WorkflowGraph.Proofs.Recognition
set_option autoImplicit false

namespace WorkflowGraph.Condition

open Text (isBlank trim Visible)

namespace Expr

/-- The text can be written for the expression. -/
inductive Spells : Expr → List Char → Prop
  | always : Spells .always []
  | unsupported (text : String) : Spells (.unsupported text) text.toList
  | compare {left right : String} {op : CompareOp} {sign before after : List Char} :
    sign ∈ op.spellings → (∀ c ∈ before, isBlank c) → (∀ c ∈ after, isBlank c) →
      Spells (.compare left op right)
        (left.toList ++ ((before ++ (sign ++ after)) ++ right.toList))
  | isIn {needle haystack : String} {before after : List Char} :
    before ≠ [] → (∀ c ∈ before, isBlank c) → after ≠ [] → (∀ c ∈ after, isBlank c) →
      Spells (.isIn needle haystack)
        (needle.toList ++ ((before ++ 'i' :: 'n' :: after) ++ haystack.toList))
  | and {left right : Expr} {xs ys before after : List Char} :
    Spells left xs → Spells right ys →
      (∀ c ∈ before, isBlank c) → (∀ c ∈ after, isBlank c) →
      Spells (.and left right) (xs ++ ((before ++ '&' :: '&' :: after) ++ ys))
  | or {left right : Expr} {xs ys before after : List Char} :
    Spells left xs → Spells right ys →
      (∀ c ∈ before, isBlank c) → (∀ c ∈ after, isBlank c) →
      Spells (.or left right) (xs ++ ((before ++ '|' :: '|' :: after) ++ ys))
  | not {inner : Expr} {xs after : List Char} :
    Spells inner xs → (∀ c ∈ after, isBlank c) → Spells (.not inner) ('!' :: (after ++ xs))

def parts : Expr → List Expr
  | .and left right => [left, right]
  | .or left right => [left, right]
  | .not inner => [inner]
  | _ => []

def subterms : Expr → List Expr
  | .and left right => .and left right :: (left.subterms ++ right.subterms)
  | .or left right => .or left right :: (left.subterms ++ right.subterms)
  | .not inner => .not inner :: inner.subterms
  | e => [e]

def texts : Expr → List String
  | .compare left _ right => [left, right]
  | .isIn needle haystack => [needle, haystack]
  | .unsupported text => [text]
  | _ => []

theorem mem_subterms_iff {e f : Expr} :
    f ∈ e.subterms ↔ f = e ∨ ∃ part ∈ e.parts, f ∈ part.subterms := by
  cases e <;> simp [subterms, parts]

end Expr

variable {cs left right gap : List Char}

def subconditions (cs : List Char) : List (List Char) :=
  if (comparison? (trim cs)).isSome || (membership? (trim cs)).isSome then []
  else
    match (connective? '&' (trim cs)).or (connective? '|' (trim cs)) with
    | some (left, right) => [left, right]
    | none => (negation? (trim cs)).toList

theorem parts_parseChars (cs : List Char) :
    (parseChars cs).parts = (subconditions cs).map parseChars := by
  unfold subconditions
  fun_cases parseChars cs with
  | case1 text hempty =>
    have hnil : trim cs = [] := List.isEmpty_iff.1 hempty
    simp [Expr.parts, hnil, comparison?, membership?, isAtoms, spanAtoms, operator?, cutAtIn?,
      connective?, negation?]
  | case2 text hne left op right hcmp => simp [Expr.parts, text, hcmp]
  | case3 text hne hcmp needle haystack hmem => simp [Expr.parts, text, hmem]
  | case4 text hne hcmp hmem left right hand => simp [Expr.parts, text, hcmp, hmem, hand]
  | case5 text hne hcmp hmem hand left right hor => simp [Expr.parts, text, hcmp, hmem, hand, hor]
  | case6 text hne hcmp hmem hand hor inner hnot =>
    simp [Expr.parts, text, hcmp, hmem, hand, hor, hnot]
  | case7 text hne hcmp hmem hand hor hnot =>
    simp [Expr.parts, text, hcmp, hmem, hand, hor, hnot]

theorem negation?_eq {inner : List Char} (h : negation? cs = some inner) :
    cs = '!' :: inner ∧ inner ≠ [] := by
  unfold negation? at h
  split at h
  · obtain rfl := Option.some.inj h
    exact ⟨rfl, by simp⟩
  · simp at h

theorem visible_of_connective? {d : Char} (h : connective? d (trim cs) = some (left, right)) :
    Visible left ∧ Visible right := by
  obtain ⟨htext, hleft, hright⟩ := connective?_eq h
  have hsides : trim cs = left ++ ([d, d] ++ right) := htext
  exact Text.visible_sides hsides hleft hright

theorem isBlank_of_negation? {inner : List Char} (h : negation? (trim cs) = some inner) :
    ∀ c ∈ inner.getLast?, isBlank c = false := by
  obtain ⟨htext, hinner⟩ := negation?_eq h
  have hside : trim cs = [] ++ (['!'] ++ inner) := htext
  exact Text.isBlank_of_mem_getLast?_side hside hinner

theorem visible_of_negation? {inner : List Char} (h : negation? (trim cs) = some inner) :
    Visible inner :=
  Text.visible_of_getLast? (negation?_eq h).2 (isBlank_of_negation? h)

theorem cut_of_mem_subconditions {part : List Char} (h : part ∈ subconditions cs) :
    (∃ d left right, (d = '&' ∨ d = '|') ∧ connective? d (trim cs) = some (left, right) ∧
      (part = left ∨ part = right)) ∨ negation? (trim cs) = some part := by
  unfold subconditions at h
  split at h
  · simp at h
  · split at h
    · rename_i left right hcut
      rcases Option.or_eq_some_iff.1 hcut with hcut | ⟨-, hcut⟩
      · exact .inl ⟨'&', left, right, .inl rfl, hcut, List.mem_pair.1 h⟩
      · exact .inl ⟨'|', left, right, .inr rfl, hcut, List.mem_pair.1 h⟩
    · exact .inr (Option.mem_toList.1 h)

theorem of_mem_subconditions {part : List Char} (h : part ∈ subconditions cs) :
    Visible part ∧ part.length < (trim cs).length := by
  rcases cut_of_mem_subconditions h with ⟨d, left, right, -, hcut, hpart⟩ | hcut
  · have hvisible := visible_of_connective? hcut
    have hlength := length_of_connective? hcut
    rcases hpart with rfl | rfl
    · exact ⟨hvisible.1, hlength.1⟩
    · exact ⟨hvisible.2, hlength.2⟩
  · exact ⟨visible_of_negation? hcut, length_of_negation? hcut⟩

section NoOperands

variable (hcmp : comparison? (trim cs) = none) (hmem : membership? (trim cs) = none)
include hcmp hmem

theorem mem_subconditions_of_and (hand : connective? '&' (trim cs) = some (left, right)) :
    left ∈ subconditions cs ∧ right ∈ subconditions cs := by
  simp [subconditions, hcmp, hmem, hand]

theorem mem_subconditions_of_or (hand : connective? '&' (trim cs) = none)
    (hor : connective? '|' (trim cs) = some (left, right)) :
    left ∈ subconditions cs ∧ right ∈ subconditions cs := by
  simp [subconditions, hcmp, hmem, hand, hor]

theorem mem_subconditions_of_not {inner : List Char} (hand : connective? '&' (trim cs) = none)
    (hor : connective? '|' (trim cs) = none) (hnot : negation? (trim cs) = some inner) :
    inner ∈ subconditions cs := by
  simp [subconditions, hcmp, hmem, hand, hor, hnot]

end NoOperands

theorem acc_subconditions (cs : List Char) :
    Acc (fun part whole => part ∈ subconditions whole) cs := by
  induction hlength : cs.length using Nat.strongRecOn generalizing cs with
  | ind length ih =>
    refine .intro cs fun part hpart => ih part.length ?_ part rfl
    have hless := (of_mem_subconditions hpart).2
    have hle := Text.length_trim_le cs
    omega

/-- Whatever an expression is made of is what some part of the text is parsed into. -/
theorem exists_of_mem_subterms {e : Expr} (h : e ∈ (parseChars cs).subterms) :
    e = parseChars cs ∨ ∃ part, Visible part ∧ e = parseChars part := by
  induction acc_subconditions cs with
  | intro cs _ ih =>
    rcases Expr.mem_subterms_iff.1 h with rfl | ⟨sub, hsub, hmem⟩
    · exact .inl rfl
    · rw [parts_parseChars] at hsub
      obtain ⟨part, hpart, rfl⟩ := List.mem_map.1 hsub
      rcases ih part hpart hmem with rfl | hdeeper
      · exact .inr ⟨part, (of_mem_subconditions hpart).1, rfl⟩
      · exact .inr hdeeper

theorem toList_operandText (cs : List Char) : (operandText cs).toList = trim cs :=
  String.toList_ofList

theorem spells_parseChars (cs : List Char) : (parseChars cs).Spells (trim cs) := by
  fun_induction parseChars cs with
  | case1 cs text hempty =>
    have hnil : trim cs = [] := List.isEmpty_iff.1 hempty
    rw [hnil]
    exact .always
  | case2 cs text hne left op right hcmp =>
    obtain ⟨c, htext, rfl, rfl, rfl⟩ := comparison?_eq_some_iff.1 hcmp
    obtain ⟨before, after, hbefore, hafter, hsides⟩ :=
      Text.exists_trimmed_sides htext.symm c.left_ne_nil c.right_ne_nil
    rw [hsides, ← toList_operandText, ← toList_operandText]
    exact .compare c.sign_mem hbefore hafter
  | case3 cs text hne hcmp needle haystack hmem =>
    obtain ⟨m, htext, -, rfl, rfl⟩ := exists_membership_of_membership? (Text.trim_trim cs) hmem
    obtain ⟨before, after, hbefore, hafter, hsides⟩ :=
      Text.exists_trimmed_sides (htext.symm.trans m.text_eq) m.needle_ne_nil m.haystack_ne_nil
    have hword : trim cs = (operandText m.needle).toList ++
        (((before ++ m.before) ++ 'i' :: 'n' :: (m.after ++ after)) ++
          (operandText m.haystack).toList) := by
      simp [hsides, toList_operandText]
    rw [hword]
    exact .isIn (by simp [m.before_ne_nil]) (List.forall_mem_append.2 ⟨hbefore, m.blank_before⟩)
      (by simp [m.after_ne_nil]) (List.forall_mem_append.2 ⟨m.blank_after, hafter⟩)
  | case4 cs text hne hcmp hmem left right hand ihleft ihright =>
    obtain ⟨htext, hleft, hright⟩ := connective?_eq hand
    have hcut : trim cs = left ++ (['&', '&'] ++ right) := htext
    obtain ⟨before, after, hbefore, hafter, hsides⟩ :=
      Text.exists_trimmed_sides hcut hleft hright
    rw [hsides]
    exact .and ihleft ihright hbefore hafter
  | case5 cs text hne hcmp hmem hand left right hor ihleft ihright =>
    obtain ⟨htext, hleft, hright⟩ := connective?_eq hor
    have hcut : trim cs = left ++ (['|', '|'] ++ right) := htext
    obtain ⟨before, after, hbefore, hafter, hsides⟩ :=
      Text.exists_trimmed_sides hcut hleft hright
    rw [hsides]
    exact .or ihleft ihright hbefore hafter
  | case6 cs text hne hcmp hmem hand hor inner hnot ih =>
    obtain ⟨after, hafter, heq⟩ := Text.exists_blanks_before_trim (isBlank_of_negation? hnot)
    have hsides : trim cs = '!' :: (after ++ trim inner) := by
      rw [heq]
      exact (negation?_eq hnot).1
    rw [hsides]
    exact .not ih hafter
  | case7 cs text hne hcmp hmem hand hor hnot =>
    have hspells := Expr.Spells.unsupported (String.ofList (trim cs))
    rwa [String.toList_ofList] at hspells

theorem parseChars_eq_always_iff : parseChars cs = .always ↔ ∀ c ∈ cs, isBlank c := by
  rw [← Text.trim_eq_nil_iff]
  fun_cases parseChars cs with
  | case1 text hempty => simpa using List.isEmpty_iff.1 hempty
  | case2 text hne | case3 text hne | case4 text hne | case5 text hne | case6 text hne
  | case7 text hne => simpa [text] using hne

/-- Each text that is held is that of some part of the condition that is not blank. -/
theorem exists_of_mem_texts {text : String} (h : text ∈ (parseChars cs).texts) :
    ∃ part, Visible part ∧ text = operandText part := by
  revert h
  fun_cases parseChars cs with
  | case1 | case4 | case5 | case6 => simp [Expr.texts]
  | case2 whole hne left op right hcmp =>
    intro h
    obtain ⟨c, hwhole, rfl, rfl, rfl⟩ := comparison?_eq_some_iff.1 hcmp
    obtain ⟨hleft, hright⟩ := Text.visible_sides hwhole.symm c.left_ne_nil c.right_ne_nil
    rcases List.mem_pair.1 h with rfl | rfl
    · exact ⟨c.left, hleft, rfl⟩
    · exact ⟨c.right, hright, rfl⟩
  | case3 whole hne hcmp needle haystack hmem =>
    intro h
    obtain ⟨m, hwhole, -, rfl, rfl⟩ := exists_membership_of_membership? (Text.trim_trim cs) hmem
    obtain ⟨hneedle, hhaystack⟩ := Text.visible_sides (hwhole.symm.trans m.text_eq)
      m.needle_ne_nil m.haystack_ne_nil
    rcases List.mem_pair.1 h with rfl | rfl
    · exact ⟨m.needle, hneedle, rfl⟩
    · exact ⟨m.haystack, hhaystack, rfl⟩
  | case7 whole hne =>
    intro h
    have hvisible : Visible cs := by
      by_contra hblank
      exact hne (List.isEmpty_iff.2 ((Text.trim_eq_nil_iff cs).2 (Text.not_visible_iff.1 hblank)))
    exact ⟨cs, hvisible, List.mem_singleton.1 h⟩

theorem operandText_ne_empty (h : Visible cs) : operandText cs ≠ "" := by
  intro hempty
  have hnil : trim cs = [] := by
    rw [← toList_operandText, hempty]
    rfl
  exact Text.not_visible_iff.2 ((Text.trim_eq_nil_iff cs).1 hnil) h

theorem trimmed_operandText (cs : List Char) :
    Text.trimmed (operandText cs) = operandText cs := by
  rw [Text.trimmed, toList_operandText, Text.trim_trim]
  rfl

/-- The expression spells the condition, its texts are trimmed and none is empty, and it is made of
what the parser makes of shorter and shorter texts. -/
theorem parse_spells (condition : String) :
    (parse condition).Spells (trim condition.toList) ∧
    (∀ e ∈ (parse condition).subterms, ∀ text ∈ e.texts,
      text ≠ "" ∧ Text.trimmed text = text) ∧
    (.always ∈ (parse condition).subterms → parse condition = .always) ∧
    (parse condition = .always ↔ ∀ c ∈ condition.toList, isBlank c) ∧
    (parse condition).parts = (subconditions condition.toList).map parseChars ∧
    (∀ part ∈ subconditions condition.toList, part.length < (trim condition.toList).length) ∧
    Acc (fun part whole => part ∈ subconditions whole) condition.toList := by
  refine ⟨spells_parseChars _, fun e he text htext => ?_, fun halways => ?_,
    parseChars_eq_always_iff, parts_parseChars _, fun part hpart => (of_mem_subconditions hpart).2,
    acc_subconditions _⟩
  · obtain ⟨cs, rfl⟩ : ∃ cs, e = parseChars cs := by
      rcases exists_of_mem_subterms he with rfl | ⟨part, -, rfl⟩
      · exact ⟨_, rfl⟩
      · exact ⟨part, rfl⟩
    obtain ⟨part, hpart, rfl⟩ := exists_of_mem_texts htext
    exact ⟨operandText_ne_empty hpart, trimmed_operandText part⟩
  · rcases exists_of_mem_subterms halways with hwhole | ⟨part, hpart, hblank⟩
    · exact hwhole.symm
    · exact absurd hpart (Text.not_visible_iff.2 (parseChars_eq_always_iff.1 hblank.symm))

end WorkflowGraph.Condition
