import WorkflowGraph.Proofs.Mentions
set_option autoImplicit false

namespace WorkflowGraph

def startsNumeral (c : Char) : Bool :=
  Text.isAsciiDigit c || c == '+' || c == '-' || c == '.'

theorem Numeral.read?_cons_eq_none {c : Char} (h : startsNumeral c = false) (rest : List Char) :
    Numeral.read? (c :: rest) = none := by
  simp only [startsNumeral, Bool.or_eq_false_iff, beq_eq_false_iff_ne] at h
  obtain ⟨⟨⟨hdigit, hplus⟩, hminus⟩, hdot⟩ := h
  have hunsigned : unsigned? false (c :: rest) = none := by
    simp [unsigned?, hdigit, hdot]
  simp [Numeral.read?, hplus, hminus, hunsigned]

namespace Condition

open Text (trim)

variable {token left right : String} {s : State} {v : Json} {cs path : List Char} {c : Char}

theorem infinite?_cons_eq_none (h : startsNumeral c = false) (rest : List Char) :
    infinite? (c :: rest) = none := by
  rw [infinite?, Numeral.read?_cons_eq_none h]
  rfl

def path? (token : String) : Option (List Char) := statePath? (trim token.toList)

theorem statePath?_eq_some_iff : statePath? cs = some path ↔ cs = stateDot ++ path := by
  unfold statePath?
  split
  · simp [stateDot]
  · rename_i hne
    constructor
    · simp
    · rintro rfl
      exact absurd rfl (hne path)

theorem samePath_iff :
    samePath left right = true ↔ ∃ path, path? left = some path ∧ path? right = some path := by
  unfold samePath path?
  split
  · rename_i p q hp hq
    rw [hp, hq, beq_iff_eq]
    constructor
    · rintro rfl
      exact ⟨p, rfl, rfl⟩
    · rintro ⟨path, hleft, hright⟩
      exact (Option.some.inj hleft).trans (Option.some.inj hright).symm
  · rename_i hne
    constructor
    · simp
    · rintro ⟨path, hleft, hright⟩
      exact absurd hright (hne path path hleft)

theorem samePath_self : samePath token token = (path? token).isSome := by
  rw [Bool.eq_iff_iff, samePath_iff, Option.isSome_iff_exists]
  simp

def Operand.of : Option Json → Operand
  | none => .missing
  | some v => .value v

theorem operand_of_finite (h : infinite? (trim token.toList) = none) (s : State) :
    operand token s = .of (resolve? token s) := by
  rw [operand, h]
  cases resolve? token s <;> rfl

theorem resolve?_of_path (h : path? token = some path) (s : State) :
    resolve? token s = s.getPath (String.ofList path) := by
  unfold path? at h
  rw [resolve?, h]

theorem operand_of_path (h : path? token = some path) (s : State) :
    operand token s = .of (s.getPath (String.ofList path)) := by
  have hfinite : infinite? (trim token.toList) = none := by
    rw [statePath?_eq_some_iff.1 h]
    exact infinite?_cons_eq_none (by decide) _
  rw [operand_of_finite hfinite, resolve?_of_path h]

theorem resolve?_of_literal (h : path? token = none) (s : State) :
    resolve? token s = literal? (trim token.toList) := by
  unfold path? at h
  rw [resolve?, h]

theorem isBracketed_of_literal? (h : literal? cs = some v) (hv : v.isContainer = true) :
    isBracketed cs = true ∧ ∃ items, v = .array items := by
  unfold literal? at h
  split at h
  · obtain rfl := Option.some.inj h
    simp [Json.isContainer] at hv
  · split at h
    · rename_i hbracketed
      refine ⟨hbracketed, ?_⟩
      split at h
      · exact ⟨_, (Option.some.inj h).symm⟩
      · obtain rfl := Option.some.inj h
        simp [Json.isContainer] at hv
    · split at h
      · obtain rfl := Option.some.inj h
        simp [Json.isContainer] at hv
      · dsimp only at h
        split_ifs at h <;> obtain rfl := Option.some.inj h <;> simp [Json.isContainer] at hv

/-- A container is only found at a path or written in brackets. -/
theorem operand_of_container (h : resolve? token s = some v) (hv : v.isContainer = true) :
    operand token s = .value v := by
  cases hpath : path? token with
  | some path =>
    rw [resolve?_of_path hpath] at h
    rw [operand_of_path hpath, h]
    rfl
  | none =>
    rw [resolve?_of_literal hpath] at h
    have hfinite : infinite? (trim token.toList) = none := by
      have hbracket := (isBracketed_of_literal? h hv).1
      rw [isBracketed, Bool.and_eq_true, beq_iff_eq] at hbracket
      obtain ⟨rest, hrest⟩ := List.head?_eq_some_iff.1 hbracket.1
      rw [hrest]
      exact infinite?_cons_eq_none (by decide) rest
    rw [operand_of_finite hfinite, resolve?_of_literal hpath, h]
    rfl

theorem resolve?_of_operand (h : operand token s = .value v) : resolve? token s = some v := by
  unfold operand at h
  split at h
  · simp at h
  · split at h
    · rename_i hresolve
      rw [hresolve, Operand.value.inj h]
    · simp at h

end Condition

end WorkflowGraph
