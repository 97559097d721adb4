import WorkflowGraph.Proofs.SchemaChecks
set_option autoImplicit false

namespace WorkflowGraph.Condition

open Text (startsName continuesName isWord)

variable {cs xs ys path name inner after found : List Char} {c : Char} {inWord : Bool} {taken : Nat}

def wordAfter (inWord : Bool) : List Char → Bool
  | [] => inWord
  | c :: cs => wordAfter (isWord c) cs

theorem wordAfter_append (inWord : Bool) (xs ys : List Char) :
    wordAfter inWord (xs ++ ys) = wordAfter (wordAfter inWord xs) ys := by
  induction xs generalizing inWord with
  | nil => rfl
  | cons c xs ih => exact ih (isWord c)

section Scan

variable {mention? : List Char → Option (List Char × List Char)}

theorem scan_past (xs ys : List Char) :
    scan mention? inWord xs.length (xs ++ ys) = scan mention? (wordAfter inWord xs) 0 ys := by
  induction xs generalizing inWord with
  | nil => rfl
  | cons c xs ih => exact scan_skip.trans ih

/-- Behind a mention the scan goes on with what follows it. -/
theorem scan_mention (h : mentionAt? mention? inWord (stateDot ++ (found ++ after)) =
    some (found, after)) :
    scan mention? inWord 0 (stateDot ++ (found ++ after)) =
      found :: scan mention? (wordAfter inWord (stateDot ++ found)) 0 after := by
  have hlength : (['t', 'a', 't', 'e', '.'] ++ found ++ after).length - after.length =
      (['t', 'a', 't', 'e', '.'] ++ found).length := by
    rw [List.length_append, Nat.add_sub_cancel]
  have hcons :
      stateDot ++ (found ++ after) = 's' :: (['t', 'a', 't', 'e', '.'] ++ found ++ after) := by
    simp [stateDot]
  rw [hcons] at h ⊢
  rw [scan_some h, hlength, scan_past]
  rfl

/-- A scan finds nothing exactly if there is no mention at any place. -/
theorem scan_eq_nil_iff : scan mention? inWord 0 cs = [] ↔
    ∀ before c after, cs = before ++ c :: after →
      mentionAt? mention? (wordAfter inWord before) (c :: after) = none := by
  induction cs generalizing inWord with
  | nil => simp [scan]
  | cons c rest ih =>
    cases hat : mentionAt? mention? inWord (c :: rest) with
    | none =>
      rw [scan_none hat, ih]
      constructor
      · intro h before d after hsplit
        cases before with
        | nil =>
          obtain ⟨rfl, rfl⟩ := List.cons.inj hsplit
          exact hat
        | cons b before =>
          obtain ⟨rfl, hrest⟩ := List.cons.inj hsplit
          exact h before d after hrest
      · intro h before d after hrest
        exact h (c :: before) d after (congrArg (c :: ·) hrest)
    | some p =>
      rw [scan_some hat]
      constructor
      · simp
      · intro h
        have hnone := h [] c rest rfl
        rw [wordAfter, hat] at hnone
        simp at hnone

end Scan

theorem scan_append_of_pathEnd (hend : PathEnd ys) (htaken : taken ≤ xs.length) :
    scan dottedField? inWord taken (xs ++ ys) =
      scan dottedField? inWord taken xs ++ scan dottedField? (wordAfter inWord xs) 0 ys := by
  induction xs generalizing inWord taken with
  | nil =>
    obtain rfl : taken = 0 := Nat.le_zero.1 htaken
    rfl
  | cons c xs ih =>
    cases taken with
    | succ taken => exact ih (Nat.le_of_succ_le_succ htaken)
    | zero =>
      have happend := fieldAt?_append (List.cons_ne_nil c xs) hend inWord
      rw [List.cons_append] at happend ⊢
      cases h : mentionAt? dottedField? inWord (c :: xs) with
      | none =>
        rw [h, Option.map_none] at happend
        rw [scan_none happend, scan_none h]
        exact ih (Nat.zero_le _)
      | some p =>
        rw [h, Option.map_some] at happend
        have hlength : (xs ++ ys).length - (p.2 ++ ys).length = xs.length - p.2.length := by
          rw [List.length_append, List.length_append]
          omega
        rw [scan_some happend, scan_some h, hlength, List.cons_append]
        exact congrArg (p.1 :: ·) (ih (Nat.sub_le _ _))

def innerPart (path : List Char) : List Char := path.dropWhile (· ≠ '.')

/-- Further in, the path comes to `state.` again, and what follows starts as a name. -/
def Reenters (path : List Char) : Prop :=
  ∃ before d c after, innerPart path = before ++ d :: (stateDot ++ c :: after) ∧
    isWord d = false ∧ startsName c = true

theorem fieldAt?_eq_none_iff : mentionAt? dottedField? inWord cs = none ↔
    ¬ (inWord = false ∧ ∃ c after, cs = stateDot ++ c :: after ∧ startsName c = true) := by
  constructor
  · rintro hnone ⟨hword, c, after, rfl, hc⟩
    have hsome := fieldAt?_eq_some_iff.2 ⟨hword,
      (congrArg (stateDot ++ c :: ·) (List.takeWhile_append_dropWhile (p := continuesName)
        (l := after))).symm,
      ⟨c, _, rfl, hc, fun d hd => List.mem_takeWhile_imp hd⟩, nameEnd_dropWhile after⟩
    simp [hnone] at hsome
  · intro h
    refine Option.eq_none_iff_forall_ne_some.2 fun p hp => h ?_
    obtain ⟨hword, rfl, ⟨c, rest, hname, hc, -⟩, -⟩ := fieldAt?_eq_some_iff.1 hp
    exact ⟨hword, c, rest ++ p.2, by rw [hname, List.cons_append], hc⟩

theorem head?_innerPart (path : List Char) : ∀ c ∈ (innerPart path).head?, c = '.' := by
  intro c hc
  have hhead := List.head?_dropWhile_not (fun c => decide (c ≠ '.')) path
  rw [innerPart] at hc
  rw [Option.mem_def.1 hc] at hhead
  simpa using hhead

/-- What stands further in mentions a field exactly if the path comes to `state.` again. -/
theorem scan_innerPart_eq_nil_iff :
    scan dottedField? inWord 0 (innerPart path) = [] ↔ ¬ Reenters path := by
  rw [scan_eq_nil_iff]
  simp only [fieldAt?_eq_none_iff]
  constructor
  · rintro h ⟨before, d, c, after, hinner, hd, hc⟩
    refine h (before ++ [d]) 's' ("tate.".toList ++ c :: after) ?_ ⟨?_, c, after, rfl, hc⟩
    · rw [hinner, List.append_assoc]
      rfl
    · rw [wordAfter_append]
      exact hd
  · rintro h before b after hinner ⟨hword, c, rest, hstate, hc⟩
    rcases List.eq_nil_or_concat' before with rfl | ⟨before, d, rfl⟩
    · -- The part begins with its dot.
      have hdot := head?_innerPart path b (by rw [hinner]; rfl)
      have hs : b = 's' := (List.cons.inj hstate).1
      exact absurd (hs.symm.trans hdot) (by decide)
    · rw [wordAfter_append] at hword
      exact h ⟨before, d, c, rest, by rw [hinner, hstate, List.append_assoc]; rfl, hword, hc⟩

instance : DecidablePred Reenters := fun path =>
  decidable_of_iff (¬ scan dottedField? false 0 (innerPart path) = [])
    (not_congr scan_innerPart_eq_nil_iff |>.trans not_not)

theorem IsName.innerPart_append (h : IsName name) (hinner : ∀ c ∈ inner.head?, c = '.') :
    innerPart (name ++ inner) = inner := by
  rw [innerPart, List.dropWhile_append_of_pos fun c hc => decide_eq_true (h.ne_dot c hc)]
  cases inner with
  | nil => rfl
  | cons c inner => simp [hinner c rfl]

/-- No field begins with a dot, so it does not matter what stands before it. -/
theorem scan_of_dot (hinner : ∀ c ∈ inner.head?, c = '.') (inWord : Bool) :
    scan dottedField? inWord 0 inner = scan dottedField? false 0 inner := by
  cases inner with
  | nil => rfl
  | cons c inner =>
    obtain rfl := hinner c rfl
    have hnone : ∀ inWord, mentionAt? dottedField? inWord ('.' :: inner) = none := by
      intro inWord
      cases inWord <;> rfl
    rw [scan_none (hnone inWord), scan_none (hnone false)]

def fieldsOfPath (path : List Char) : List (List Char) :=
  firstSegment path :: scan dottedField? false 0 (innerPart path)

theorem IsName.scan_append (h : IsName name) (hinner : ∀ c ∈ inner.head?, c = '.') :
    scan dottedField? false 0 (stateDot ++ (name ++ inner)) = fieldsOfPath (name ++ inner) := by
  have hend : NameEnd inner := by
    intro c hc
    obtain rfl := hinner c hc
    decide
  rw [scan_mention (fieldAt?_eq_some_iff.2 ⟨rfl, rfl, h, hend⟩), scan_of_dot hinner, fieldsOfPath,
    h.firstSegment_append hinner, h.innerPart_append hinner]

/-- A scan for fields finds those of each path that a scan for paths finds. -/
theorem scan_dottedField? (inWord : Bool) (cs : List Char) :
    scan dottedField? inWord 0 cs = (scan dottedPath? inWord 0 cs).flatMap fieldsOfPath := by
  induction hn : cs.length using Nat.strongRecOn generalizing inWord cs with
  | ind n ih =>
    subst hn
    cases cs with
    | nil => rfl
    | cons c rest =>
      cases hfield : mentionAt? dottedField? inWord (c :: rest) with
      | none =>
        have hpath : mentionAt? dottedPath? inWord (c :: rest) = none := by
          rw [pathAt?_eq, hfield, Option.map_none]
        rw [scan_none hfield, scan_none hpath]
        exact ih rest.length (Nat.lt_succ_self _) (isWord c) rest rfl
      | some p =>
        obtain ⟨name, after⟩ := p
        obtain ⟨rfl, htext, hname, hafter⟩ := fieldAt?_eq_some_iff.1 hfield
        have hpath := pathAt?_eq false (c :: rest)
        rw [hfield, Option.map_some] at hpath
        have hinner := head?_innerSegments after
        have hend := hafter.pathEnd_innerSegments
        have hparts := innerSegments_append after
        generalize (innerSegments after).1 = inner at hpath hinner hparts
        generalize (innerSegments after).2 = tail at hpath hend hparts
        subst hparts
        have hsplit : c :: rest = stateDot ++ (name ++ inner ++ tail) := by
          rw [htext, List.append_assoc name]
        have hshort : tail.length < (c :: rest).length := by
          simp [hsplit, stateDot]
          omega
        rw [hsplit] at hpath ⊢
        rw [scan_mention hpath, List.flatMap_cons, ← hname.scan_append hinner, ← List.append_assoc,
          scan_append_of_pathEnd hend (Nat.zero_le _), ih _ hshort _ tail rfl]

section Firsts

variable {α β : Type} [DecidableEq α] [DecidableEq β]

theorem firsts_append_congr {xs ys : List α} (h : firsts xs = firsts ys) (zs : List α) :
    firsts (xs ++ zs) = firsts (ys ++ zs) := by
  unfold firsts at h ⊢
  rw [List.foldl_append, List.foldl_append, h]

theorem firsts_append_of_subset {xs ys : List α} (h : ys ⊆ xs) : firsts (xs ++ ys) = firsts xs := by
  induction ys using List.reverseRecOn with
  | nil => rw [List.append_nil]
  | append_singleton ys y ih =>
    have hy : y ∈ xs ++ ys := List.mem_append_left _ (h (by simp))
    rw [← List.append_assoc, firsts_concat_of_mem hy]
    exact ih fun z hz => h (List.mem_append_left _ hz)

/-- What comes of an element that appeared before has appeared before, too. -/
theorem firsts_flatMap_firsts (f : β → List α) (xs : List β) :
    firsts ((firsts xs).flatMap f) = firsts (xs.flatMap f) := by
  induction xs using List.reverseRecOn with
  | nil => rfl
  | append_singleton xs x ih =>
    rw [List.flatMap_append, List.flatMap_singleton]
    by_cases hx : x ∈ xs
    · rw [firsts_concat_of_mem hx, ih,
        firsts_append_of_subset fun y hy => List.mem_flatMap.2 ⟨x, hx, hy⟩]
    · rw [firsts_concat_of_notMem hx, List.flatMap_append, List.flatMap_singleton]
      exact firsts_append_congr ih _

end Firsts

def furtherFields (path : String) : List String :=
  (scan dottedField? false 0 (innerPart path.toList)).map String.ofList

theorem topLevelFields_eq (condition : String) : topLevelFields condition =
    firsts ((statePaths condition).flatMap fun path => firstField path :: furtherFields path) := by
  have hfields : ∀ path, (fieldsOfPath path).map String.ofList =
      firstField (String.ofList path) :: furtherFields (String.ofList path) := by
    intro path
    rw [fieldsOfPath, List.map_cons, firstField, furtherFields, String.toList_ofList]
  rw [topLevelFields, mentions, scan_dottedField?, List.map_flatMap]
  simp only [hfields]
  rw [statePaths, mentions, firsts_flatMap_firsts, List.flatMap_map]

theorem furtherFields_eq_nil_iff {path : String} :
    furtherFields path = [] ↔ ¬ Reenters path.toList := by
  rw [furtherFields, List.map_eq_nil_iff, scan_innerPart_eq_nil_iff]

theorem mem_warnings_iff {condition field : String} {schema : Schema} :
    "Field '" ++ field ++ "' is not defined in the state schema" ∈ warnings condition schema ↔
      field ∈ topLevelFields condition ∧ schema.contains field = false := by
  rw [← unlistedWarning, warnings, List.mem_map_of_injective unlistedWarning_injective, unlistedFields,
    List.mem_filter, Bool.not_eq_true']

/-- The top-level fields of a condition are those of its paths: the first segments, and the fields
further in of paths that come to `state.` again. If none does, they are the first segments, and only
these are warned about. -/
theorem topLevelFields_paths (condition : String) :
    FirstAppearances
      ((statePaths condition).flatMap fun path => firstField path :: furtherFields path)
      (topLevelFields condition) ∧
    (∀ path, furtherFields path = [] ↔ ¬ Reenters path.toList) ∧
    ((∀ path ∈ statePaths condition, ¬ Reenters path.toList) →
      FirstAppearances ((statePaths condition).map firstField) (topLevelFields condition) ∧
      ∀ (schema : Schema) (field : String),
        "Field '" ++ field ++ "' is not defined in the state schema" ∈ warnings condition schema ↔
          field ∈ (statePaths condition).map firstField ∧ schema.contains field = false) := by
  have hall : FirstAppearances
      ((statePaths condition).flatMap fun path => firstField path :: furtherFields path)
      (topLevelFields condition) := topLevelFields_eq condition ▸ firstAppearances_firsts _
  refine ⟨hall, fun path => furtherFields_eq_nil_iff, fun hnone => ?_⟩
  have hfirst : ((statePaths condition).flatMap fun path => firstField path :: furtherFields path) =
      (statePaths condition).map firstField := by
    rw [List.map_eq_flatMap]
    refine List.flatMap_congr fun path hpath => ?_
    rw [furtherFields_eq_nil_iff.2 (hnone path hpath)]
  rw [hfirst] at hall
  refine ⟨hall, fun schema field => ?_⟩
  rw [mem_warnings_iff, hall.mem_iff]

def tame : String := "state.b.state > 1 && state.a.mystate.b || state.b.state.0 < state.a$state.c"

theorem tame_topLevelFields :
    topLevelFields tame = ["b", "a", "a$state"] ∧
      "Field 'c' is not defined in the state schema" ∉ warnings tame ⟨[]⟩ := by
  have hpaths : statePaths tame = ["b.state", "a.mystate.b", "b.state.0", "a$state.c"] := by
    decide +kernel
  have htame : ∀ path ∈ statePaths tame, ¬ Reenters path.toList := by
    rw [hpaths]
    decide +kernel
  obtain ⟨-, hwarnings⟩ := (topLevelFields_paths tame).2.2 htame
  refine ⟨by decide +kernel, fun hmem => ?_⟩
  have hfield := (hwarnings ⟨[]⟩ "c").1 hmem
  rw [hpaths] at hfield
  exact absurd hfield.1 (by decide +kernel)

/-- The inner segment `b` behind `state` is taken for a field, and warned about. -/
theorem topLevelFields_inner_segment :
    statePaths "state.a.state.b == 1" = ["a.state.b"] ∧
      ¬ FirstAppearances ((statePaths "state.a.state.b == 1").map firstField)
        (topLevelFields "state.a.state.b == 1") ∧
      "Field 'b' is not defined in the state schema" ∈
        warnings "state.a.state.b == 1" ⟨[⟨"a", .object, false, none, none⟩]⟩ := by
  have hpaths : statePaths "state.a.state.b == 1" = ["a.state.b"] := by decide +kernel
  have hfields : topLevelFields "state.a.state.b == 1" = ["a", "b"] := by decide +kernel
  refine ⟨hpaths, fun h => ?_, by decide +kernel⟩
  rw [hpaths, hfields] at h
  exact absurd ((h.mem_iff "b").1 (by decide)) (by decide +kernel)

end WorkflowGraph.Condition
