set_option autoImplicit false

namespace WorkflowGraph.Text

/-- A character with the Unicode property White_Space. -/
def isBlank (c : Char) : Bool :=
  let n := c.toNat
  (9 ≤ n && n ≤ 13) || n == 0x20 || n == 0x85 || n == 0xA0 || n == 0x1680
    || (0x2000 ≤ n && n ≤ 0x200A) || n == 0x2028 || n == 0x2029 || n == 0x202F
    || n == 0x205F || n == 0x3000

def trimStart (cs : List Char) : List Char := cs.dropWhile isBlank

def trimEnd : List Char → List Char
  | [] => []
  | c :: rest =>
    match trimEnd rest with
    | [] => if isBlank c then [] else [c]
    | kept => c :: kept

def trim (cs : List Char) : List Char := trimEnd (trimStart cs)

def trimmed (s : String) : String := String.ofList (trim s.toList)

theorem length_trimEnd_le (cs : List Char) : (trimEnd cs).length ≤ cs.length := by
  induction cs with
  | nil => simp [trimEnd]
  | cons c rest ih =>
    rw [trimEnd]
    split
    · split <;> simp
    · simpa using ih

theorem length_trimStart_le (cs : List Char) : (trimStart cs).length ≤ cs.length :=
  (List.dropWhile_suffix _).length_le

theorem length_trim_le (cs : List Char) : (trim cs).length ≤ cs.length :=
  Nat.le_trans (length_trimEnd_le _) (length_trimStart_le _)

theorem trimEnd_eq_nil_iff (cs : List Char) : trimEnd cs = [] ↔ ∀ c ∈ cs, isBlank c := by
  induction cs with
  | nil => simp [trimEnd]
  | cons c rest ih =>
    rw [trimEnd]
    split
    · rename_i h
      have := ih.1 h
      split <;> simp_all
    · rename_i h
      have : ¬ ∀ c ∈ rest, isBlank c := fun hall => h (ih.2 hall)
      simp_all

theorem trimEnd_cons_of_not_blank {c : Char} (rest : List Char) (h : isBlank c = false) :
    trimEnd (c :: rest) = c :: trimEnd rest := by
  rw [trimEnd]
  split <;> simp_all

theorem trimEnd_trimEnd (cs : List Char) : trimEnd (trimEnd cs) = trimEnd cs := by
  induction cs with
  | nil => rfl
  | cons c rest ih =>
    rw [trimEnd]
    split
    · split
      · rfl
      · simp_all [trimEnd]
    · rename_i kept h
      rw [trimEnd, ih]
      split <;> simp_all

/-- What is left starts with no blank. -/
theorem trimStart_trimEnd (cs : List Char) (h : trimStart cs = cs) :
    trimStart (trimEnd cs) = trimEnd cs := by
  cases cs with
  | nil => rfl
  | cons c rest =>
    have hc : isBlank c = false := by
      cases hb : isBlank c with
      | false => rfl
      | true =>
        have hl := length_trimStart_le rest
        rw [trimStart, List.dropWhile_cons_of_pos hb] at h
        have := congrArg List.length h
        rw [trimStart] at hl
        simp only [List.length_cons] at this
        omega
    rw [trimEnd_cons_of_not_blank rest hc, trimStart,
      List.dropWhile_cons_of_neg (by simp [hc])]

theorem trimStart_trimStart (cs : List Char) : trimStart (trimStart cs) = trimStart cs := by
  induction cs with
  | nil => rfl
  | cons c rest ih =>
    simp only [trimStart] at ih ⊢
    cases hb : isBlank c with
    | false => simp [hb]
    | true => simpa [hb] using ih

@[simp] theorem trim_trim (cs : List Char) : trim (trim cs) = trim cs := by
  have h : trimStart (trim cs) = trim cs := trimStart_trimEnd _ (trimStart_trimStart cs)
  rw [trim, h]
  exact trimEnd_trimEnd _

theorem trim_eq_nil_iff (cs : List Char) : trim cs = [] ↔ ∀ c ∈ cs, isBlank c := by
  rw [trim, trimEnd_eq_nil_iff]
  constructor
  · intro h
    induction cs with
    | nil => simp
    | cons c rest ih =>
      cases hb : isBlank c with
      | false =>
        have := h c (by simp [trimStart, hb])
        simp_all
      | true =>
        have := ih (by simpa [trimStart, hb] using h)
        simp_all
  · intro h c hc
    exact h c ((List.dropWhile_suffix _).subset hc)

end WorkflowGraph.Text
