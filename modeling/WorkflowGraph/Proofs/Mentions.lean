import WorkflowGraph.Proofs.Operands
set_option autoImplicit false

namespace WorkflowGraph.Condition

open Text (startsName continuesName isWord)

def IsName (name : List Char) : Prop :=
  ∃ c rest, name = c :: rest ∧ startsName c = true ∧ ∀ d ∈ rest, continuesName d = true

def NameEnd (cs : List Char) : Prop := ∀ c ∈ cs.head?, continuesName c = false

/-- No name goes on here and no other segment follows. -/
def PathEnd (cs : List Char) : Prop := NameEnd cs ∧ ∀ rest, cs = '.' :: rest → NameEnd rest

variable {cs xs ys name after : List Char} {c : Char} {inWord : Bool} {taken : Nat}

theorem continuesName_of_startsName (h : startsName c = true) : continuesName c = true := by
  simp only [startsName, Bool.or_eq_true] at h
  rcases h with (h | h) | h
  · have hsmall : c.toNat < 0x80 := by
      simp only [Text.isAsciiLetter, Bool.or_eq_true, Bool.and_eq_true, decide_eq_true_eq,
        Char.le_def, UInt32.le_iff_toNat_le] at h
      change c.val.toNat < 0x80
      rcases h with ⟨-, h⟩ | ⟨-, h⟩
      · exact Nat.lt_of_le_of_lt h (by decide)
      · exact Nat.lt_of_le_of_lt h (by decide)
    simp [continuesName, isWord, hsmall, h]
  · obtain rfl := eq_of_beq h
    decide
  · simp [continuesName, h]

theorem IsName.continuesName_of_mem (h : IsName name) : ∀ c ∈ name, continuesName c = true := by
  obtain ⟨c, rest, rfl, hc, hrest⟩ := h
  intro d hd
  rcases List.mem_cons.1 hd with rfl | hd
  · exact continuesName_of_startsName hc
  · exact hrest d hd

theorem nameEnd_cons_of_isBreak (h : isBreak c = true) (rest : List Char) :
    NameEnd (c :: rest) := by
  intro d hd
  obtain rfl := Option.some.inj hd
  exact continuesName_of_isBreak h

theorem nameEnd_dropWhile (cs : List Char) : NameEnd (cs.dropWhile continuesName) := by
  intro c hc
  have hhead := List.head?_dropWhile_not continuesName cs
  rw [Option.mem_def.1 hc] at hhead
  simpa using hhead

theorem NameEnd.takeWhile (h : NameEnd cs) : cs.takeWhile continuesName = [] := by
  cases cs with
  | nil => rfl
  | cons c rest => exact List.takeWhile_cons_of_neg (by simp [h c rfl])

theorem NameEnd.dropWhile (h : NameEnd cs) : cs.dropWhile continuesName = cs := by
  cases cs with
  | nil => rfl
  | cons c rest => exact List.dropWhile_cons_of_neg (by simp [h c rfl])

theorem NameEnd.of_append (h : NameEnd (xs ++ ys)) : NameEnd xs := by
  intro c hc
  exact h c (List.mem_head?_append_of_mem_head? hc)

theorem identifier?_eq_some_iff :
    identifier? cs = some (name, after) ↔ cs = name ++ after ∧ IsName name ∧ NameEnd after := by
  constructor
  · intro h
    unfold identifier? at h
    split at h
    · simp at h
    · rename_i c rest
      split at h
      · rename_i hc
        obtain ⟨rfl, rfl⟩ := Prod.mk.inj (Option.some.inj h)
        refine ⟨?_, ⟨c, _, rfl, hc, fun d hd => List.mem_takeWhile_imp hd⟩, nameEnd_dropWhile rest⟩
        rw [List.cons_append, List.takeWhile_append_dropWhile]
      · simp at h
  · rintro ⟨rfl, ⟨c, rest, rfl, hc, hrest⟩, hend⟩
    rw [List.cons_append, identifier?, if_pos hc, List.takeWhile_append_of_pos hrest,
      List.dropWhile_append_of_pos hrest, hend.takeWhile, hend.dropWhile, List.append_nil]

def stateDot : List Char := ['s', 't', 'a', 't', 'e', '.']

def mentionAt? (mention? : List Char → Option (List Char × List Char)) (inWord : Bool)
    (cs : List Char) : Option (List Char × List Char) :=
  if inWord then none else (afterState? cs).bind mention?

theorem afterState?_eq_some_iff :
    afterState? cs = some after ↔ cs = ['s', 't', 'a', 't', 'e'] ++ after := by
  unfold afterState?
  split
  · simp
  · rename_i hne
    constructor
    · simp
    · rintro rfl
      exact absurd rfl (hne after)

theorem dottedField?_eq_some_iff :
    dottedField? cs = some (name, after) ↔
      cs = '.' :: (name ++ after) ∧ IsName name ∧ NameEnd after := by
  unfold dottedField?
  split
  · rw [identifier?_eq_some_iff, List.cons.injEq]
    simp
  · rename_i hne
    constructor
    · simp
    · rintro ⟨rfl, -⟩
      exact absurd rfl (hne _)

theorem fieldAt?_eq_some_iff :
    mentionAt? dottedField? inWord cs = some (name, after) ↔
      inWord = false ∧ cs = stateDot ++ (name ++ after) ∧ IsName name ∧ NameEnd after := by
  unfold mentionAt?
  cases inWord with
  | true => simp
  | false =>
    simp only [Bool.false_eq_true, if_false, Option.bind_eq_some_iff, afterState?_eq_some_iff,
      dottedField?_eq_some_iff, true_and]
    constructor
    · rintro ⟨rest, rfl, rfl, h⟩
      exact ⟨rfl, h⟩
    · rintro ⟨rfl, h⟩
      exact ⟨_, rfl, rfl, h⟩

theorem pathAt?_eq (inWord : Bool) (cs : List Char) :
    mentionAt? dottedPath? inWord cs = (mentionAt? dottedField? inWord cs).map fun p =>
      (p.1 ++ (innerSegments p.2).1, (innerSegments p.2).2) := by
  unfold mentionAt?
  split
  · rfl
  · cases afterState? cs with
    | none => rfl
    | some rest =>
      change dottedPath? rest = _
      unfold dottedPath?
      cases h : dottedField? rest with
      | none => simp [h]
      | some p => simp [h]

/-- No path ends inside of a mention. -/
theorem not_pathEnd_drop (hname : IsName name) {taken : Nat} (hpos : 0 < taken)
    (hlt : taken < (stateDot ++ name).length) (after : List Char) :
    ¬ PathEnd ((stateDot ++ (name ++ after)).drop taken) := by
  intro hend
  -- The six characters of `state.` are followed by the name; only the dot does not continue one.
  by_cases hsmall : taken < 6
  · obtain ⟨c, rest, rfl, hc, -⟩ := hname
    obtain rfl | rfl | rfl | rfl | rfl :
      taken = 1 ∨ taken = 2 ∨ taken = 3 ∨ taken = 4 ∨ taken = 5 := by omega
    · exact absurd (hend.1 't' rfl) (by decide)
    · exact absurd (hend.1 'a' rfl) (by decide)
    · exact absurd (hend.1 't' rfl) (by decide)
    · exact absurd (hend.1 'e' rfl) (by decide)
    · have hfalse := hend.2 _ rfl c rfl
      rw [continuesName_of_startsName hc] at hfalse
      simp at hfalse
  · have hlt' : taken - 6 < name.length := by
      rw [List.length_append] at hlt
      change taken < 6 + name.length at hlt
      omega
    have hdrop : (stateDot ++ (name ++ after)).drop taken = name.drop (taken - 6) ++ after := by
      rw [List.drop_append, List.drop_of_length_le (Nat.le_of_not_lt hsmall), List.nil_append]
      exact List.drop_append_of_le_length (Nat.le_of_lt hlt')
    cases hrest : name.drop (taken - 6) with
    | nil =>
      have hlength := List.drop_eq_nil_iff.1 hrest
      omega
    | cons c rest =>
      have hmem : c ∈ name := List.mem_of_mem_drop (hrest ▸ List.mem_cons_self)
      rw [hdrop, hrest] at hend
      have hfalse := hend.1 c rfl
      rw [hname.continuesName_of_mem c hmem] at hfalse
      simp at hfalse

/-- A field that begins before the end of a path is not affected by what follows the path. -/
theorem fieldAt?_append (hxs : xs ≠ []) (hend : PathEnd ys) (inWord : Bool) :
    mentionAt? dottedField? inWord (xs ++ ys) =
      (mentionAt? dottedField? inWord xs).map fun p => (p.1, p.2 ++ ys) := by
  cases h : mentionAt? dottedField? inWord xs with
  | some p =>
    obtain ⟨name, after⟩ := p
    obtain ⟨hword, rfl, hname, hafter⟩ := fieldAt?_eq_some_iff.1 h
    refine fieldAt?_eq_some_iff.2 ⟨hword, by simp, hname, ?_⟩
    cases after with
    | nil => exact hend.1
    | cons d after => exact hafter
  | none =>
    refine Option.eq_none_iff_forall_ne_some.2 fun p hp => ?_
    obtain ⟨name, after⟩ := p
    obtain ⟨hword, heq, hname, hafter⟩ := fieldAt?_eq_some_iff.1 hp
    by_cases hlt : xs.length < (stateDot ++ name).length
    · -- The path would end inside of the mention.
      refine not_pathEnd_drop hname (List.length_pos_iff.2 hxs) hlt after ?_
      rwa [← heq, List.drop_left]
    · rw [← List.append_assoc] at heq
      obtain ⟨rest, rfl⟩ := List.prefix_of_prefix_length_le (List.prefix_append _ _)
        (heq ▸ List.prefix_append xs ys) (Nat.le_of_not_lt hlt)
      rw [List.append_assoc _ rest] at heq
      have hrest := List.append_cancel_left heq
      have hend : NameEnd rest := NameEnd.of_append (hrest ▸ hafter)
      rw [fieldAt?_eq_some_iff.2 ⟨hword, by rw [List.append_assoc], hname, hend⟩] at h
      simp at h

section Scan

variable {mention? : List Char → Option (List Char × List Char)} {rest : List Char}

theorem scan_skip : scan mention? inWord (taken + 1) (c :: rest) =
    scan mention? (isWord c) taken rest := by
  rw [scan]

theorem scan_none (h : mentionAt? mention? inWord (c :: rest) = none) :
    scan mention? inWord 0 (c :: rest) = scan mention? (isWord c) 0 rest := by
  rw [mentionAt?] at h
  rw [scan, h]

theorem scan_some (h : mentionAt? mention? inWord (c :: rest) = some (name, after)) :
    scan mention? inWord 0 (c :: rest) =
      name :: scan mention? (isWord c) (rest.length - after.length) rest := by
  rw [mentionAt?] at h
  rw [scan, h]

end Scan

/-- A mention is neither lost nor found by what follows a break. -/
def EndsAtBreaks (mention? : List Char → Option (List Char × List Char)) : Prop :=
  ∀ inWord xs c ys, isBreak c = true → mentionAt? mention? inWord (xs ++ c :: ys) =
    (mentionAt? mention? inWord xs).map fun p => (p.1, p.2 ++ c :: ys)

theorem pathEnd_cons_of_isBreak (h : isBreak c = true) (rest : List Char) :
    PathEnd (c :: rest) := by
  refine ⟨nameEnd_cons_of_isBreak h rest, fun rest' heq => ?_⟩
  obtain rfl := (List.cons.inj heq).1
  exact absurd h (by decide)

theorem endsAtBreaks_dottedField? : EndsAtBreaks dottedField? := by
  intro inWord xs c ys hc
  cases xs with
  | nil =>
    refine (Option.eq_none_iff_forall_ne_some.2 fun p hp => ?_).trans (by cases inWord <;> rfl)
    obtain ⟨-, heq, -⟩ := fieldAt?_eq_some_iff.1 hp
    obtain rfl := (List.cons.inj heq).1
    exact absurd hc (by decide)
  | cons d xs =>
    exact fieldAt?_append (List.cons_ne_nil d xs) (pathEnd_cons_of_isBreak hc ys) inWord

section Breaks

variable {mention? : List Char → Option (List Char × List Char)} (hends : EndsAtBreaks mention?)
include hends

theorem scan_append_break (hc : isBreak c = true) (htaken : taken ≤ xs.length) :
    scan mention? inWord taken (xs ++ c :: ys) =
      scan mention? inWord taken xs ++ scan mention? false 0 ys := by
  induction xs generalizing inWord taken with
  | nil =>
    obtain rfl : taken = 0 := Nat.le_zero.1 htaken
    have hnone : mentionAt? mention? inWord (c :: ys) = none := by
      rw [← List.nil_append (c :: ys), hends inWord [] c ys hc]
      cases inWord <;> rfl
    rw [List.nil_append, scan_none hnone, isWord_of_isBreak hc, scan, List.nil_append]
  | cons d xs ih =>
    cases taken with
    | succ taken => exact ih (Nat.le_of_succ_le_succ htaken)
    | zero =>
      have happend : mentionAt? mention? inWord (d :: (xs ++ c :: ys)) =
          (mentionAt? mention? inWord (d :: xs)).map fun p => (p.1, p.2 ++ c :: ys) :=
        hends inWord (d :: xs) c ys hc
      rw [List.cons_append]
      cases h : mentionAt? mention? inWord (d :: xs) with
      | none =>
        rw [h, Option.map_none] at happend
        rw [scan_none happend, scan_none h]
        exact ih (Nat.zero_le _)
      | some p =>
        rw [h, Option.map_some] at happend
        rw [scan_some happend, scan_some h, List.cons_append]
        have hlength : (xs ++ c :: ys).length - (p.2 ++ c :: ys).length =
            xs.length - p.2.length := by
          rw [List.length_append, List.length_append]
          omega
        rw [hlength]
        exact congrArg (p.1 :: ·) (ih (Nat.sub_le _ _))

theorem Delimited.mem_scan {part text : List Char} (h : Delimited part text)
    (hmem : name ∈ scan mention? false 0 part) :
    name ∈ scan mention? false 0 text := by
  obtain ⟨before, after, rfl, hbefore, hafter⟩ := h
  have hright : name ∈ scan mention? false 0 (part ++ after) := by
    cases after with
    | nil => rwa [List.append_nil]
    | cons c after =>
      rw [scan_append_break hends (hafter c rfl) (Nat.zero_le _)]
      exact List.mem_append_left _ hmem
  rcases List.eq_nil_or_concat' before with rfl | ⟨start, c, rfl⟩
  · exact hright
  · rw [List.append_assoc, List.singleton_append,
      scan_append_break hends (hbefore c (by simp)) (Nat.zero_le _)]
    exact List.mem_append_right _ hright

theorem scan_append_of_blank {blanks : List Char} (hblank : ∀ c ∈ blanks, Text.isBlank c)
    (ys : List Char) : scan mention? false 0 (blanks ++ ys) = scan mention? false 0 ys := by
  induction blanks with
  | nil => rfl
  | cons c blanks ih =>
    obtain ⟨hc, hrest⟩ := List.forall_mem_cons.1 hblank
    have hcut : scan mention? false 0 ([] ++ c :: (blanks ++ ys)) =
        scan mention? false 0 [] ++ scan mention? false 0 (blanks ++ ys) :=
      scan_append_break hends (by simp [isBreak, hc]) le_rfl
    exact hcut.trans (ih hrest)

/-- Blanks at the ends of a text hold no mention. -/
theorem scan_trim (cs : List Char) :
    scan mention? false 0 (Text.trim cs) = scan mention? false 0 cs := by
  obtain ⟨before, hbefore, hstart⟩ := Text.exists_blanks_before cs
  obtain ⟨after, hafter, hend⟩ := Text.exists_blanks_after (Text.trimStart cs)
  have htrim :
      scan mention? false 0 (Text.trimStart cs) = scan mention? false 0 (Text.trim cs) := by
    rw [← hend, ← Text.trim]
    cases after with
    | nil => rw [List.append_nil]
    | cons c after =>
      obtain ⟨hc, hrest⟩ := List.forall_mem_cons.1 hafter
      have hnone := scan_append_of_blank hends hrest []
      rw [List.append_nil] at hnone
      rw [scan_append_break hends (by simp [isBreak, hc]) (Nat.zero_le _), hnone, scan,
        List.append_nil]
  rw [← htrim, ← scan_append_of_blank hends hbefore (Text.trimStart cs), hstart]

end Breaks

def firstSegment (path : List Char) : List Char := path.takeWhile (· ≠ '.')

theorem IsName.ne_dot (h : IsName name) : ∀ c ∈ name, c ≠ '.' := by
  rintro c hc rfl
  have hcontinues := h.continuesName_of_mem '.' hc
  rw [show continuesName '.' = false by decide] at hcontinues
  simp at hcontinues

theorem IsName.firstSegment_append (h : IsName name) {inner : List Char}
    (hinner : ∀ c ∈ inner.head?, c = '.') : firstSegment (name ++ inner) = name := by
  rw [firstSegment, List.takeWhile_append_of_pos fun c hc => decide_eq_true (h.ne_dot c hc)]
  cases inner with
  | nil => simp
  | cons c inner => simp [hinner c rfl]

theorem innerSegments_append (cs : List Char) :
    (innerSegments cs).1 ++ (innerSegments cs).2 = cs := by
  fun_induction innerSegments cs with
  | case1 c rest hc more ih => simp [more, ih]
  | case2 => rfl
  | case3 => rfl

theorem head?_innerSegments (cs : List Char) : ∀ c ∈ (innerSegments cs).1.head?, c = '.' := by
  unfold innerSegments
  split
  · split <;> simp
  · simp

theorem takeWhile_append_break (xs ys : List Char) (hc : isBreak c = true) :
    (xs ++ c :: ys).takeWhile continuesName = xs.takeWhile continuesName := by
  induction xs with
  | nil => exact List.takeWhile_cons_of_neg (by simp [continuesName_of_isBreak hc])
  | cons d xs ih => rw [List.cons_append, List.takeWhile_cons, List.takeWhile_cons, ih]

theorem dropWhile_append_break (xs ys : List Char) (hc : isBreak c = true) :
    (xs ++ c :: ys).dropWhile continuesName = xs.dropWhile continuesName ++ c :: ys := by
  induction xs with
  | nil => exact List.dropWhile_cons_of_neg (by simp [continuesName_of_isBreak hc])
  | cons d xs ih =>
    rw [List.cons_append, List.dropWhile_cons, List.dropWhile_cons, ih]
    split <;> rfl

theorem innerSegments_append_break (xs ys : List Char) (hc : isBreak c = true) :
    innerSegments (xs ++ c :: ys) = ((innerSegments xs).1, (innerSegments xs).2 ++ c :: ys) := by
  fun_induction innerSegments xs with
  | case1 d rest hd more ih =>
    rw [List.cons_append, List.cons_append, innerSegments, if_pos hd]
    dsimp only
    rw [takeWhile_append_break rest ys hc, dropWhile_append_break rest ys hc, ih]
  | case2 d rest hd =>
    rw [List.cons_append, List.cons_append, innerSegments, if_neg hd]
  | case3 xs hne =>
    unfold innerSegments
    split
    · rename_i d rest heq
      split
      · rename_i hd
        -- What follows the dot would have to be the break, or stand before it.
        rcases xs with _ | ⟨a, _ | ⟨b, xs⟩⟩
        · obtain rfl : c = '.' := (List.cons.inj heq).1
          exact absurd hc (by decide)
        · obtain rfl : c = d := (List.cons.inj (List.cons.inj heq).2).1
          exact absurd hd (by simp [continuesName_of_isBreak hc])
        · obtain ⟨rfl, heq⟩ := List.cons.inj heq
          exact absurd rfl (hne b xs)
      · rfl
    · rfl

theorem endsAtBreaks_dottedPath? : EndsAtBreaks dottedPath? := by
  intro inWord xs c ys hc
  rw [pathAt?_eq, pathAt?_eq, endsAtBreaks_dottedField? inWord xs c ys hc]
  cases mentionAt? dottedField? inWord xs with
  | none => rfl
  | some p => simp [innerSegments_append_break p.2 ys hc]

theorem NameEnd.pathEnd_innerSegments (h : NameEnd cs) : PathEnd (innerSegments cs).2 := by
  fun_induction innerSegments cs with
  | case1 c rest hc more ih => exact ih (nameEnd_dropWhile rest)
  | case2 c rest hc =>
    refine ⟨h, ?_⟩
    intro rest' heq d hd
    rw [← (List.cons.inj heq).2] at hd
    obtain rfl := Option.some.inj hd
    simpa using hc
  | case3 cs hne =>
    refine ⟨h, ?_⟩
    rintro rest rfl c hc
    cases rest with
    | nil => simp at hc
    | cons d rest => exact absurd rfl (hne d rest)

/-- A scan for paths takes at least as much as one for fields, and where it stops no field goes on:
so the two find their next mentions at the same places, apart from fields inside of a path. -/
theorem fields_of_paths {field path : Nat} (hle : field ≤ path)
    (hend : 0 < path → PathEnd (cs.drop path)) :
    ∀ found ∈ scan dottedPath? inWord path cs,
      firstSegment found ∈ scan dottedField? inWord field cs := by
  induction cs generalizing inWord field path with
  | nil => simp [scan]
  | cons c rest ih =>
    cases path with
    | succ path =>
      rw [scan_skip]
      have hend' : 0 < path → PathEnd (rest.drop path) := fun _ => hend (Nat.succ_pos path)
      -- Within a path, the other scan is within a field or looks for the next one.
      cases field with
      | succ field => exact ih (Nat.le_of_succ_le_succ hle) hend'
      | zero =>
        intro found hfound
        cases h : mentionAt? dottedField? inWord (c :: rest) with
        | none =>
          rw [scan_none h]
          exact ih (Nat.zero_le _) hend' found hfound
        | some p =>
          obtain ⟨name, after⟩ := p
          rw [scan_some h]
          refine List.mem_cons_of_mem _ (ih ?_ hend' found hfound)
          obtain ⟨-, heq, hname, -⟩ := fieldAt?_eq_some_iff.1 h
          have hend := hend (Nat.succ_pos path)
          have hlength := congrArg List.length heq
          simp only [List.length_cons, List.length_append] at hlength
          rw [heq] at hend
          -- The field ends where the path ends at the latest.
          by_contra hlt
          refine not_pathEnd_drop hname (Nat.succ_pos path) ?_ after hend
          rw [List.length_append]
          omega
    | zero =>
      obtain rfl : field = 0 := Nat.le_zero.1 hle
      cases h : mentionAt? dottedField? inWord (c :: rest) with
      | none =>
        have hpath : mentionAt? dottedPath? inWord (c :: rest) = none := by
          rw [pathAt?_eq, h, Option.map_none]
        rw [scan_none h, scan_none hpath]
        exact ih le_rfl fun hpos => absurd hpos (Nat.lt_irrefl 0)
      | some p =>
        obtain ⟨name, after⟩ := p
        have hpath : mentionAt? dottedPath? inWord (c :: rest) =
            some (name ++ (innerSegments after).1, (innerSegments after).2) := by
          rw [pathAt?_eq, h, Option.map_some]
        obtain ⟨-, heq, hname, hafter⟩ := fieldAt?_eq_some_iff.1 h
        have hrest : ['t', 'a', 't', 'e', '.'] ++ (name ++ after) = rest :=
          (List.cons.inj heq).2.symm
        have hsuffix : (innerSegments after).2 <:+ rest := by
          have hafter : (innerSegments after).2 <:+ after := ⟨_, innerSegments_append after⟩
          rw [← hrest]
          exact hafter.trans ((List.suffix_append name after).trans (List.suffix_append _ _))
        rw [scan_some h, scan_some hpath]
        intro found hfound
        rcases List.mem_cons.1 hfound with rfl | hfound
        · rw [hname.firstSegment_append (head?_innerSegments after)]
          exact List.mem_cons_self
        · refine List.mem_cons_of_mem _ (ih ?_ (fun _ => ?_) found hfound)
          · have hlength := congrArg List.length (innerSegments_append after)
            rw [List.length_append] at hlength
            omega
          · rw [← List.suffix_iff_eq_drop.1 hsuffix]
            exact hafter.pathEnd_innerSegments

theorem mem_firsts {α : Type} [DecidableEq α] {x : α} {xs : List α} : x ∈ firsts xs ↔ x ∈ xs := by
  have hfold : ∀ kept : List α,
      x ∈ xs.foldl (fun kept y => if y ∈ kept then kept else kept ++ [y]) kept ↔
        x ∈ kept ∨ x ∈ xs := by
    induction xs with
    | nil => simp
    | cons y xs ih =>
      intro kept
      rw [List.foldl_cons, ih, List.mem_cons]
      by_cases hy : y ∈ kept
      · rw [if_pos hy]
        constructor
        · exact Or.imp_right .inr
        · rintro (hx | rfl | hx)
          · exact .inl hx
          · exact .inl hy
          · exact .inr hx
      · rw [if_neg hy, List.mem_append, List.mem_singleton, or_assoc]
  rw [firsts, hfold []]
  simp

theorem mem_mentions {mention? : List Char → Option (List Char × List Char)}
    {condition found : String} :
    found ∈ mentions mention? condition ↔
      ∃ cs ∈ scan mention? false 0 condition.toList, String.ofList cs = found := by
  rw [mentions, mem_firsts, List.mem_map]

def firstField (path : String) : String := String.ofList (firstSegment path.toList)

/-- The field that a path in a condition starts from is mentioned in the condition. -/
theorem firstField_mem_topLevelFields {condition path : String} (h : path ∈ statePaths condition) :
    firstField path ∈ topLevelFields condition := by
  obtain ⟨cs, hcs, rfl⟩ := mem_mentions.1 h
  rw [firstField, String.toList_ofList]
  exact mem_mentions.2
    ⟨_, fields_of_paths le_rfl (fun hpos => absurd hpos (Nat.lt_irrefl 0)) cs hcs, rfl⟩

theorem mem_statePaths_of_delimited {condition part path : String}
    (hpart : Delimited part.toList condition.toList) (h : path ∈ statePaths part) :
    path ∈ statePaths condition := by
  obtain ⟨cs, hcs, rfl⟩ := mem_mentions.1 h
  exact mem_mentions.2 ⟨cs, hpart.mem_scan endsAtBreaks_dottedPath? hcs, rfl⟩

theorem statePaths_trimmed (condition : String) :
    statePaths (Text.trimmed condition) = statePaths condition := by
  unfold statePaths mentions Text.trimmed
  rw [String.toList_ofList, scan_trim endsAtBreaks_dottedPath?]

def IsPath (path : List Char) : Prop := dottedPath? ('.' :: path) = some (path, [])

instance : DecidablePred IsPath := fun path =>
  inferInstanceAs (Decidable (dottedPath? ('.' :: path) = some (path, [])))

theorem IsPath.mem_statePaths {path : List Char} (h : IsPath path) {token : String}
    (htoken : statePath? token.toList = some path) : String.ofList path ∈ statePaths token := by
  have hchars : token.toList = 's' :: 't' :: 'a' :: 't' :: 'e' :: '.' :: path := by
    unfold statePath? at htoken
    split at htoken
    · rename_i hcs
      rw [hcs, ← Option.some.inj htoken]
    · simp at htoken
  have hmention : mentionAt? dottedPath? false token.toList = some (path, []) := by
    rw [hchars]
    exact h
  rw [hchars] at hmention
  refine mem_mentions.2 ⟨path, ?_, rfl⟩
  rw [hchars, scan_some hmention]
  exact List.mem_cons_self

end WorkflowGraph.Condition
