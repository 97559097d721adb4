import WorkflowGraph.Proofs.Decimals
import WorkflowGraph.Proofs.Equality
set_option autoImplicit false

namespace WorkflowGraph

theorem Text.pieces_append {separator : Char} (xs ys : List Char) :
    Text.pieces separator (xs ++ separator :: ys) =
      Text.pieces separator xs ++ Text.pieces separator ys := by
  induction xs with
  | nil => simp [Text.pieces]
  | cons c xs ih =>
    rw [List.cons_append, Text.pieces, Text.pieces, ih]
    split
    · rfl
    · cases h : Text.pieces separator xs with
      | nil => exact absurd h (Text.pieces_ne_nil xs)
      | cons piece more => rfl

namespace State

variable {s : State} {path more : List String}

theorem follow_append (h : path ≠ []) (s : State) (more : List String) :
    s.follow (path ++ more) = (s.follow path).bind (·.descend more) := by
  obtain ⟨key, rest, rfl⟩ := List.exists_cons_of_ne_nil h
  rw [List.cons_append, follow, follow, Option.bind_assoc]
  exact congrArg _ (funext fun v => List.foldlM_append)

theorem getPath_dot (s : State) (p : String) {segment : String} (h : '.' ∉ segment.toList) :
    s.getPath (p ++ "." ++ segment) = (s.getPath p).bind (·.child? segment) := by
  have hsegments : Text.segments (p ++ "." ++ segment) = Text.segments p ++ [segment] := by
    have hchars : (p ++ "." ++ segment).toList = p.toList ++ '.' :: segment.toList := by simp
    rw [Text.segments, hchars, Text.pieces_append, Text.pieces_of_notMem h, List.map_append,
      List.map_singleton, String.ofList_toList]
    rfl
  have hne : Text.segments p ≠ [] := by simp [Text.segments, Text.pieces_ne_nil]
  rw [getPath, hsegments, follow_append hne, getPath]
  refine congrArg _ (funext fun v => ?_)
  rw [Json.descend, List.foldlM_cons]
  exact bind_pure _

end State

theorem Json.child?_toString {i : Nat} (h : i < wordLimit) (items : List Json) :
    (Json.array items).child? (toString i) = items[i]? := by
  rw [Json.child?, readWord64?_eq_some_iff.2 (isWordNumeral_toString h)]
  rfl

namespace Condition

variable {s : State} {needle p : String} {same : Bool} {x : Operand} {w : Json}
  {items : List Json}

theorem path?_append (h : ∀ c ∈ p.toList.getLast?, Text.isBlank c = false) :
    path? ("state." ++ p) = some p.toList := by
  have hchars : ("state." ++ p).toList = stateDot ++ p.toList := String.toList_append
  have htrim : Text.trim (stateDot ++ p.toList) = stateDot ++ p.toList := by
    refine Text.trim_eq_self ?_ fun c hc => ?_
    · intro c hc
      obtain rfl : 's' = c := Option.some.inj hc
      decide
    · rw [List.getLast?_append] at hc
      cases hp : p.toList.getLast? with
      | some d =>
        rw [hp] at hc
        obtain rfl := Option.some.inj hc
        exact h d hp
      | none =>
        rw [hp] at hc
        obtain rfl : '.' = c := Option.some.inj hc
        decide
  rw [path?, hchars, htrim]
  rfl

theorem operand_append (h : ∀ c ∈ p.toList.getLast?, Text.isBlank c = false) (s : State) :
    operand ("state." ++ p) s = .of (s.getPath p) := by
  rw [operand_of_path (path?_append h), String.ofList_toList]

theorem operand_item (s : State) (p : String) (i : Nat) :
    operand ("state." ++ p ++ "." ++ toString i) s = .of (s.getPath (p ++ "." ++ toString i)) := by
  have happend : "state." ++ p ++ "." ++ toString i = "state." ++ (p ++ "." ++ toString i) := by
    rw [String.append_assoc, String.append_assoc, String.append_assoc]
  rw [happend]
  refine operand_append (fun c hc => isBlank_of_isAsciiDigit ?_) s
  -- The text ends with a digit of the index.
  have hdigits : Nat.toDigits 10 i ≠ [] := Nat.toDigits_ne_nil
  rw [Nat.toString_eq_ofList_toDigits, String.toList_append, String.toList_ofList,
    List.getLast?_append_of_ne_nil _ hdigits] at hc
  exact isAsciiDigit_of_mem_toDigits (List.mem_of_getLast? hc)

theorem contains_array_iff :
    contains x (some (.array items)) = true ↔
      ∃ v, x = .value v ∧ ∃ w ∈ items, scalarEquals v w = true := by
  cases x with
  | missing | infinite => simp [contains]
  | value v => simp [contains]

theorem contains_eq_false {haystack : Option Json} (h : ∀ items, haystack ≠ some (.array items))
    (x : Operand) : contains x haystack = false := by
  unfold contains
  split
  · exact absurd rfl (h _)
  · rfl

/-- An operand that is no container is compared with an item as one scalar with another. -/
theorem strictEquals_item_iff (hx : x.isContainer = false) :
    strictEquals same x (.value w) = true ↔ ∃ v, x = .value v ∧ scalarEquals v w = true := by
  cases x with
  | missing | infinite => simp [strictEquals]
  | value v =>
    have hv : v.isContainer = false := hx
    simp [strictEquals, hv]

theorem isContainer_operand (h : ∀ v, resolve? needle s = some v → v.isContainer = false) :
    (operand needle s).isContainer = false := by
  cases hoperand : operand needle s with
  | missing | infinite => rfl
  | value v => exact h v (resolve?_of_operand hoperand)

theorem operand_item_of_array (hitems : s.getPath p = some (.array items))
    (hlength : items.length ≤ wordLimit) {i : Nat} (hi : i < items.length) :
    operand ("state." ++ p ++ "." ++ toString i) s = .value items[i] := by
  rw [operand_item, State.getPath_dot s p (dot_notMem_toString i), hitems, Option.bind_some,
    Json.child?_toString (Nat.lt_of_lt_of_le hi hlength), List.getElem?_eq_getElem hi]
  rfl

theorem eval_compare_item_iff (hitems : s.getPath p = some (.array items))
    (hlength : items.length ≤ wordLimit) (hneedle : (operand needle s).isContainer = false)
    {i : Nat} (hi : i < items.length) :
    (Expr.compare needle .eq ("state." ++ p ++ "." ++ toString i)).eval s = true ↔
      ∃ v, operand needle s = .value v ∧ scalarEquals v items[i] = true := by
  change strictEquals _ _ _ = true ↔ _
  rw [operand_item_of_array hitems hlength hi]
  exact strictEquals_item_iff hneedle

/-- A token that is no container is in the array at a path exactly if it equals some item, each of
which has a path of its own. No token is in what is no array. -/
theorem isIn_path_iff (s : State) (p : String)
    (hp : ∀ c ∈ p.toList.getLast?, Text.isBlank c = false) (needle : String) :
    (∀ items, s.getPath p = some (.array items) → items.length ≤ wordLimit →
      (∀ v, resolve? needle s = some v → v.isContainer = false) →
      ((Expr.isIn needle ("state." ++ p)).eval s = true ↔ ∃ i < items.length,
        (Expr.compare needle .eq ("state." ++ p ++ "." ++ toString i)).eval s = true)) ∧
    ((∀ items, s.getPath p ≠ some (.array items)) →
      (Expr.isIn needle ("state." ++ p)).eval s = false) := by
  have hisIn : (Expr.isIn needle ("state." ++ p)).eval s =
      contains (operand needle s) (s.getPath p) := by
    rw [Expr.eval, resolve?_of_path (path?_append hp), String.ofList_toList]
  rw [hisIn]
  refine ⟨fun items hitems hlength hscalar => ?_, fun hnone => contains_eq_false hnone _⟩
  have hneedle := isContainer_operand hscalar
  rw [hitems, contains_array_iff]
  constructor
  · rintro ⟨v, hv, w, hw, hequal⟩
    obtain ⟨i, hi, rfl⟩ := List.mem_iff_getElem.1 hw
    exact ⟨i, hi, (eval_compare_item_iff hitems hlength hneedle hi).2 ⟨v, hv, hequal⟩⟩
  · rintro ⟨i, hi, heval⟩
    obtain ⟨v, hv, hequal⟩ := (eval_compare_item_iff hitems hlength hneedle hi).1 heval
    exact ⟨v, hv, items[i], List.getElem_mem hi, hequal⟩

def mixed : State :=
  Fields.ofList [("t", .array [.string "1", .number (.float ⟨false, Binary64.unitsPerOne⟩)])]

theorem mixed_isIn_path :
    (Expr.isIn "1" "state.t").eval mixed = true ∧
      (¬ ∃ i < 2,
        (Expr.compare "1e999" .eq ("state." ++ "t" ++ "." ++ toString i)).eval mixed = true) ∧
      (Expr.isIn "undefined" "state.t.0").eval mixed = false := by
  have hblank : ∀ c ∈ "t".toList.getLast?, Text.isBlank c = false := by simp [Text.isBlank]
  have hitems : mixed.getPath "t" =
      some (.array [.string "1", .number (.float ⟨false, Binary64.unitsPerOne⟩)]) := rfl
  have hitem : mixed.getPath "t.0" = some (.string "1") := by with_unfolding_all rfl
  have hone : resolve? "1" mixed = some (.number (.int 1)) := by with_unfolding_all rfl
  have hhuge : resolve? "1e999" mixed = some (.string "1e999") := by with_unfolding_all rfl
  have hin := (isIn_path_iff mixed "t" hblank "1").1 _ hitems (by decide)
    (by simp [hone, Json.isContainer])
  have hnotin := (isIn_path_iff mixed "t" hblank "1e999").1 _ hitems (by decide)
    (by simp [hhuge, Json.isContainer])
  refine ⟨hin.2 ⟨1, by decide, by decide +kernel⟩, fun hex => ?_, ?_⟩
  · exact absurd (hnotin.2 hex) (by decide +kernel)
  · exact (isIn_path_iff mixed "t.0" (by simp [Text.isBlank]) "undefined").2 (by simp [hitem])

end Condition

end WorkflowGraph
