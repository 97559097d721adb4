import WorkflowGraph.Proofs.Tokens
set_option autoImplicit false

namespace WorkflowGraph

theorem Json.Number.value_ne_nan (n : Json.Number) : n.value ≠ .nan := by
  cases n with
  | int n => exact Binary64.ofInt_ne_nan n
  | float x => simp [value]

theorem Json.Number.value_eq_self (n : Json.Number) : n.value.eq n.value = true :=
  (Binary64.eq_self_iff n.value).2 n.value_ne_nan

namespace Condition

/-- The kinds of equal operands. Containers are equal if `same` says that they are in one place. -/
inductive Operand.Equals (same : Bool) : Operand → Operand → Prop
  | missing : Equals same .missing .missing
  | infinite (negative : Bool) : Equals same (.infinite negative) (.infinite negative)
  | null : Equals same (.value .null) (.value .null)
  | bool (b : Bool) : Equals same (.value (.bool b)) (.value (.bool b))
  | string (t : String) : Equals same (.value (.string t)) (.value (.string t))
  | number {m n : Json.Number} : m.value.eq n.value = true →
      Equals same (.value (.number m)) (.value (.number n))
  | container {v w : Json} : v.isContainer = true → w.isContainer = true → same = true →
      Equals same (.value v) (.value w)

def Operand.isContainer : Operand → Bool
  | .value v => v.isContainer
  | _ => false

variable {same p q r : Bool} {x y z : Operand} {v w : Json}

theorem equals_of_scalarEquals (h : scalarEquals v w = true) :
    Operand.Equals same (.value v) (.value w) := by
  unfold scalarEquals at h
  split at h
  · exact .null
  · exact eq_of_beq h ▸ .bool _
  · exact .number h
  · exact eq_of_beq h ▸ .string _
  · simp at h

theorem strictEquals_iff : strictEquals same x y = true ↔ Operand.Equals same x y := by
  constructor
  · intro h
    unfold strictEquals at h
    split at h
    · exact .missing
    · exact eq_of_beq h ▸ .infinite _
    · split at h
      · rename_i hboth
        rw [Bool.and_eq_true] at hboth
        exact .container hboth.1 hboth.2 h
      · exact equals_of_scalarEquals h
    · simp at h
  · intro h
    cases h with
    | missing | null => rfl
    | infinite negative => exact beq_self_eq_true negative
    | bool b => exact beq_self_eq_true b
    | string t => exact beq_self_eq_true t
    | number h => exact h
    | container hv hw hsame => simp [strictEquals, hv, hw, hsame]

namespace Operand.Equals

theorem symm (h : Equals same x y) : Equals same y x := by
  cases h with
  | missing => exact .missing
  | infinite negative => exact .infinite negative
  | null => exact .null
  | bool b => exact .bool b
  | string t => exact .string t
  | number h => exact .number ((Binary64.eq_symm _ _).trans h)
  | container hv hw hsame => exact .container hw hv hsame

/-- A container equals only another one, and then both are in one place. -/
theorem of_isContainer (h : Equals same x y) (hx : x.isContainer = true) :
    y.isContainer = true ∧ same = true := by
  cases h with
  | container hv hw hsame => exact ⟨hw, hsame⟩
  | _ => exact absurd hx (by simp [isContainer, Json.isContainer])

theorem trans (hsame : p = true → q = true → r = true) (hxy : Equals p x y) (hyz : Equals q y z) :
    Equals r x z := by
  cases hxy with
  | missing => cases hyz; exact .missing
  | infinite negative => cases hyz; exact .infinite negative
  | container hv hw hp =>
    obtain ⟨hz, hq⟩ := hyz.of_isContainer hw
    cases hyz with
    | container _ hu _ => exact .container hv hu (hsame hp hq)
    | _ => exact absurd hw (by simp [Json.isContainer])
  | null =>
    cases hyz with
    | null => exact .null
    | container hv => exact absurd hv (by simp [Json.isContainer])
  | bool b =>
    cases hyz with
    | bool b => exact .bool b
    | container hv => exact absurd hv (by simp [Json.isContainer])
  | string t =>
    cases hyz with
    | string t => exact .string t
    | container hv => exact absurd hv (by simp [Json.isContainer])
  | number hmn =>
    cases hyz with
    | number hnk => exact .number (Binary64.eq_trans hmn hnk)
    | container hv => exact absurd hv (by simp [Json.isContainer])

theorem self_iff : Equals same x x ↔ (x.isContainer = true → same = true) := by
  refine ⟨fun h hx => (h.of_isContainer hx).2, fun h => ?_⟩
  cases x with
  | missing => exact .missing
  | infinite negative => exact .infinite negative
  | value v =>
    cases v with
    | null => exact .null
    | bool b => exact .bool b
    | number n => exact .number n.value_eq_self
    | string t => exact .string t
    | array items => exact .container rfl rfl (h rfl)
    | object members => exact .container rfl rfl (h rfl)

end Operand.Equals

def EqualOn (s : State) (left right : String) : Prop := (Expr.compare left .eq right).eval s = true

instance (s : State) (left right : String) : Decidable (EqualOn s left right) :=
  inferInstanceAs (Decidable ((Expr.compare left .eq right).eval s = true))

def IsArrayLiteral (s : State) (token : String) : Prop :=
  path? token = none ∧ ∃ items, resolve? token s = some (.array items)

variable {s : State} {a b c token : String}

theorem equalOn_iff :
    EqualOn s a b ↔ Operand.Equals (samePath a b) (operand a s) (operand b s) := strictEquals_iff

theorem EqualOn.symm (h : EqualOn s a b) : EqualOn s b a := by
  have hsame : samePath b a = samePath a b := by
    rw [Bool.eq_iff_iff, samePath_iff, samePath_iff]
    exact exists_congr fun _ => and_comm
  rw [equalOn_iff, hsame]
  exact (equalOn_iff.1 h).symm

theorem samePath_trans (hab : samePath a b = true) (hbc : samePath b c = true) :
    samePath a c = true := by
  obtain ⟨path, ha, hb⟩ := samePath_iff.1 hab
  obtain ⟨path', hb', hc⟩ := samePath_iff.1 hbc
  rw [hb] at hb'
  obtain rfl := Option.some.inj hb'
  exact samePath_iff.2 ⟨path, ha, hc⟩

theorem EqualOn.trans (hab : EqualOn s a b) (hbc : EqualOn s b c) : EqualOn s a c :=
  equalOn_iff.2 ((equalOn_iff.1 hab).trans samePath_trans (equalOn_iff.1 hbc))

theorem isArrayLiteral_iff :
    IsArrayLiteral s token ↔ (operand token s).isContainer = true ∧ path? token = none := by
  constructor
  · rintro ⟨hpath, items, hitems⟩
    rw [operand_of_container hitems rfl]
    exact ⟨rfl, hpath⟩
  · rintro ⟨hcontainer, hpath⟩
    refine ⟨hpath, ?_⟩
    cases hoperand : operand token s with
    | missing | infinite => simp [hoperand, Operand.isContainer] at hcontainer
    | value v =>
      rw [hoperand] at hcontainer
      have hresolve := resolve?_of_operand hoperand
      rw [resolve?_of_literal hpath] at hresolve
      obtain ⟨-, items, rfl⟩ := isBracketed_of_literal? hresolve hcontainer
      exact ⟨items, by rw [resolve?_of_literal hpath, hresolve]⟩

theorem equalOn_self_iff : EqualOn s token token ↔ ¬ IsArrayLiteral s token := by
  rw [equalOn_iff, Operand.Equals.self_iff, samePath_self, isArrayLiteral_iff, not_and,
    ← Ne, Option.isSome_iff_ne_none]

/-- What equals a container is a token with the same path. -/
theorem EqualOn.exists_path (h : EqualOn s a b) {v : Json} (hv : resolve? a s = some v)
    (hcontainer : v.isContainer = true) : ∃ path, path? a = some path ∧ path? b = some path := by
  have hequals := equalOn_iff.1 h
  rw [operand_of_container hv hcontainer] at hequals
  exact samePath_iff.1 (hequals.of_isContainer hcontainer).2

/-- On every state equality of tokens is symmetric and transitive. Every token equals itself unless
it is an array that is written out, a token that stands for a container equals only tokens with the
same path, and the other comparison is the negation of this one. -/
theorem equalOn_partial_equivalence (s : State) :
    (∀ a b, EqualOn s a b → EqualOn s b a) ∧
    (∀ a b c, EqualOn s a b → EqualOn s b c → EqualOn s a c) ∧
    (∀ a, EqualOn s a a ↔ ¬ IsArrayLiteral s a) ∧
    (∀ a b v, resolve? a s = some v → v.isContainer = true → EqualOn s a b →
      ∃ path, path? a = some path ∧ path? b = some path) ∧
    ∀ a b, (Expr.compare a .notEq b).eval s = !(Expr.compare a .eq b).eval s :=
  ⟨fun _ _ h => h.symm, fun _ _ _ hab hbc => hab.trans hbc, fun _ => equalOn_self_iff,
    fun _ _ _ hv hcontainer h => h.exists_path hv hcontainer, fun _ _ => rfl⟩

def twins : State :=
  Fields.ofList [("n", .number (.int 1)), ("t", .array [.string "a"]), ("u", .array [.string "a"])]

theorem twins_equalOn :
    EqualOn twins "1" "1.0" ∧ EqualOn twins "state.t" "state.t" ∧ ¬ EqualOn twins "[1]" "[1]" ∧
      ¬ EqualOn twins "state.t" "state.u" := by
  obtain ⟨hsymm, htrans, hself, hpath, -⟩ := equalOn_partial_equivalence twins
  have hint : EqualOn twins "state.n" "1" := by decide +kernel
  have hfloat : EqualOn twins "state.n" "1.0" := by decide +kernel
  have hitems : resolve? "[1]" twins = some (.array [.number (.int 1)]) := by with_unfolding_all rfl
  have harray : resolve? "state.t" twins = some (.array [.string "a"]) := by with_unfolding_all rfl
  refine ⟨htrans _ _ _ (hsymm _ _ hint) hfloat, ?_, ?_, ?_⟩
  · exact (hself _).2 fun h => absurd h.1 (by decide +kernel)
  · exact fun h => (hself _).1 h ⟨by decide +kernel, _, hitems⟩
  · intro h
    obtain ⟨path, ht, hu⟩ := hpath _ _ _ harray rfl h
    exact absurd (ht.trans hu.symm) (by decide +kernel)

end Condition

end WorkflowGraph
