import WorkflowGraph.Number.Numeral
import WorkflowGraph.Text.Blank
import Mathlib.Data.List.TakeWhile
set_option autoImplicit false

namespace WorkflowGraph

open Text (isAsciiDigit)

variable {n m : Nat} {c : Char} {cs ds : List Char}

theorem isAsciiDigit_iff : isAsciiDigit c = true ↔ 48 ≤ c.toNat ∧ c.toNat ≤ 57 := by
  simp only [isAsciiDigit, Bool.and_eq_true, decide_eq_true_eq, Char.le_def,
    UInt32.le_iff_toNat_le]
  rfl

theorem isBlank_of_isAsciiDigit (h : isAsciiDigit c = true) : Text.isBlank c = false := by
  obtain ⟨hzero, hnine⟩ := isAsciiDigit_iff.1 h
  simp only [Text.isBlank, Bool.or_eq_false_iff, Bool.and_eq_false_iff, decide_eq_false_iff_not,
    beq_eq_false_iff_ne]
  omega

theorem isAsciiDigit_of_mem_toDigits (h : c ∈ Nat.toDigits 10 n) : isAsciiDigit c = true := by
  have hdigit := Nat.isDigit_of_mem_toDigits (by decide) (by decide) h
  simpa [Char.isDigit, isAsciiDigit, Char.le_def] using hdigit

theorem digitValue_of_isAsciiDigit (h : isAsciiDigit c = true) :
    digitValue c = c.toNat - '0'.toNat := if_pos h

theorem digitValue_lt_ten_iff : digitValue c < 10 ↔ isAsciiDigit c = true := by
  constructor
  · intro h
    by_contra hdigit
    rw [digitValue, if_neg hdigit] at h
    split at h
    · omega
    · split at h <;> omega
  · intro h
    rw [digitValue_of_isAsciiDigit h]
    have hnine := (isAsciiDigit_iff.1 h).2
    change c.toNat - 48 < 10
    omega

theorem foldl_digitValue (h : ∀ c ∈ ds, isAsciiDigit c = true) (n : Nat) :
    ds.foldl (fun n c => n * 10 + digitValue c) n = Nat.ofDigitChars 10 ds n := by
  induction ds generalizing n with
  | nil => rfl
  | cons d ds ih =>
    obtain ⟨hd, hds⟩ := List.forall_mem_cons.1 h
    rw [List.foldl_cons, ih hds, Nat.ofDigitChars_cons, digitValue_of_isAsciiDigit hd, Nat.mul_comm]

theorem foldl_toDigits (n : Nat) :
    (Nat.toDigits 10 n).foldl (fun n c => n * 10 + digitValue c) 0 = n := by
  rw [foldl_digitValue fun c hc => isAsciiDigit_of_mem_toDigits hc]
  exact Nat.ofDigitChars_ten_toDigits

def IsWholeNumber (ds : List Char) (n : Nat) : Prop :=
  ds ≠ [] ∧ (∀ c ∈ ds, isAsciiDigit c = true) ∧ Nat.ofDigitChars 10 ds 0 = n

theorem wholeNumber?_eq_some_iff : wholeNumber? 10 ds = some n ↔ IsWholeNumber ds n := by
  unfold wholeNumber? IsWholeNumber
  by_cases hall : ∀ c ∈ ds, isAsciiDigit c = true
  · have hvalues : ds.all (fun c => digitValue c < 10) = true :=
      List.all_eq_true.2 fun c hc => decide_eq_true (digitValue_lt_ten_iff.2 (hall c hc))
    rw [hvalues, foldl_digitValue hall]
    cases ds <;> simp_all
  · have hvalues : ds.all (fun c => digitValue c < 10) = false := by
      refine Bool.eq_false_iff.2 fun h => hall fun c hc => ?_
      exact digitValue_lt_ten_iff.1 (of_decide_eq_true (List.all_eq_true.1 h c hc))
    simp [hvalues, hall]

theorem isWholeNumber_toDigits (n : Nat) : IsWholeNumber (Nat.toDigits 10 n) n :=
  ⟨Nat.toDigits_ne_nil, fun _ hc => isAsciiDigit_of_mem_toDigits hc, Nat.ofDigitChars_ten_toDigits⟩

theorem wholeNumber?_toDigits (n : Nat) : wholeNumber? 10 (Nat.toDigits 10 n) = some n :=
  wholeNumber?_eq_some_iff.2 (isWholeNumber_toDigits n)

/-- The digits do not start with a sign. -/
theorem exists_toDigits_eq_cons (n : Nat) :
    ∃ d ds, Nat.toDigits 10 n = d :: ds ∧ d ≠ '+' ∧ d ≠ '-' := by
  obtain ⟨d, ds, h⟩ := List.exists_cons_of_ne_nil (Nat.toDigits_ne_nil (n := n) (b := 10))
  have hd : isAsciiDigit d = true := isAsciiDigit_of_mem_toDigits (h ▸ List.mem_cons_self)
  have hsign : ∀ c, isAsciiDigit c = false → d ≠ c := by
    rintro c hc rfl
    rw [hd] at hc
    simp at hc
  exact ⟨d, ds, h, hsign '+' (by decide), hsign '-' (by decide)⟩

/-- A number of 64 bits in decimal. Zeros may stand before it, and before them a plus sign. -/
def IsWordNumeral (cs : List Char) (n : Nat) : Prop :=
  ∃ ds, (cs = ds ∨ cs = '+' :: ds) ∧ IsWholeNumber ds n ∧ n < wordLimit

theorem readWord64?_eq_some_iff : readWord64? 10 cs = some n ↔ IsWordNumeral cs n := by
  unfold readWord64? IsWordNumeral
  dsimp only
  rw [Option.filter_eq_some_iff, wholeNumber?_eq_some_iff, decide_eq_true_eq]
  split
  · rename_i ds
    constructor
    · rintro ⟨hwhole, hlimit⟩
      exact ⟨ds, .inr rfl, hwhole, hlimit⟩
    · rintro ⟨ds', rfl | heq, hwhole, hlimit⟩
      · exact absurd (hwhole.2.1 '+' List.mem_cons_self) (by decide)
      · obtain rfl := (List.cons.inj heq).2
        exact ⟨hwhole, hlimit⟩
  · rename_i hplus
    constructor
    · rintro ⟨hwhole, hlimit⟩
      exact ⟨cs, .inl rfl, hwhole, hlimit⟩
    · rintro ⟨ds, rfl | rfl, hwhole, hlimit⟩
      · exact ⟨hwhole, hlimit⟩
      · exact absurd rfl (hplus ds)

theorem isWordNumeral_toString (h : n < wordLimit) : IsWordNumeral (toString n).toList n := by
  rw [Nat.toString_eq_ofList_toDigits, String.toList_ofList]
  exact ⟨_, .inl rfl, isWholeNumber_toDigits n, h⟩

theorem dot_notMem_toString (n : Nat) : '.' ∉ (toString n).toList := by
  rw [Nat.toString_eq_ofList_toDigits, String.toList_ofList]
  exact fun hmem => absurd (isAsciiDigit_of_mem_toDigits hmem) (by decide)

def decimal (n : Int) : List Char :=
  if n < 0 then '-' :: Nat.toDigits 10 n.natAbs else Nat.toDigits 10 n.natAbs

theorem toList_toString (n : Int) : (toString n).toList = decimal n := by
  cases n with
  | ofNat m =>
    have hnonneg : ¬ Int.ofNat m < 0 := Int.not_lt.2 (Int.natCast_nonneg m)
    rw [decimal, if_neg hnonneg]
    exact Nat.toList_repr
  | negSucc m =>
    rw [decimal, if_pos (Int.negSucc_lt_zero m)]
    change ("-" ++ (m + 1).repr).toList = '-' :: Nat.toDigits 10 (m + 1)
    rw [String.toList_append, Nat.toList_repr]
    rfl

def IsInt64 (n : Int) : Prop := -(signedLimit : Int) ≤ n ∧ n < signedLimit

instance : DecidablePred IsInt64 := fun n =>
  inferInstanceAs (Decidable (-(signedLimit : Int) ≤ n ∧ n < signedLimit))

theorem readInt64?_decimal {n : Int} (h : IsInt64 n) : readInt64? 10 (decimal n) = some n := by
  obtain ⟨hlow, hhigh⟩ := h
  have hwhole := wholeNumber?_toDigits n.natAbs
  unfold decimal
  split
  · have hfits : n.natAbs ≤ signedLimit := by omega
    have habs : -(n.natAbs : Int) = n := by omega
    rw [readInt64?, hwhole, Option.filter_some, if_pos (decide_eq_true hfits)]
    exact congrArg some habs
  · have hfits : n.natAbs < signedLimit := by omega
    have habs : (n.natAbs : Int) = n := by omega
    obtain ⟨d, ds, hdigits, hplus, hminus⟩ := exists_toDigits_eq_cons n.natAbs
    rw [hdigits] at hwhole ⊢
    simp [readInt64?, hminus, hplus, hwhole, Option.filter, hfits, habs]

theorem Binary64.roundQuotient_le (num den : Nat) :
    roundQuotient num den ≤ 2 * (num / den) + 1 := by
  let step := Nat.pow 2 ((num / den).log2 - 52)
  have hcount : num / (den * step) * step ≤ num / den := by
    rw [← Nat.div_div_eq_div_mul]
    exact Nat.div_mul_le_self _ _
  have hstep : step ≤ num / den + 1 := by
    by_cases hzero : num / den = 0
    · simp [step, hzero, Nat.log2_zero]
    · have hpow : step ≤ 2 ^ (num / den).log2 :=
        Nat.pow_le_pow_right (by decide) (Nat.sub_le _ _)
      exact Nat.le_succ_of_le (Nat.le_trans hpow (Nat.log2_self_le hzero))
  change (if _ then num / (den * step) + 1 else num / (den * step)) * step ≤ _
  split
  · rw [Nat.add_mul, Nat.one_mul]
    omega
  · omega

theorem Binary64.unitsPerOne_pos : 0 < unitsPerOne := by
  unfold unitsPerOne
  generalize 1074 = places
  exact Nat.pow_pos (by decide)

theorem Binary64.mul_unitsPerOne_lt_limit (h : m < 2 * wordLimit) : m * unitsPerOne < limit := by
  have hword : 2 * wordLimit = Nat.pow 2 65 := by decide
  have hall : ∀ k, 65 ≤ k → m * unitsPerOne < Nat.pow 2 k * unitsPerOne := fun k hk =>
    Nat.mul_lt_mul_of_pos_right
      (Nat.lt_of_lt_of_le (h.trans_eq hword) (Nat.pow_le_pow_right (by decide) hk)) unitsPerOne_pos
  rw [limit]
  exact hall 1024 (by decide)

theorem Binary64.exists_ofQuotient_eq_finite (negative : Bool) (h : m ≤ signedLimit) :
    ∃ x, ofQuotient negative (m * unitsPerOne) 1 = .finite x := by
  have hround := roundQuotient_le (m * unitsPerOne) 1
  have hpos := unitsPerOne_pos
  rw [Nat.div_one] at hround
  have hlimit : roundQuotient (m * unitsPerOne) 1 < limit := calc
    roundQuotient (m * unitsPerOne) 1 ≤ 2 * (m * unitsPerOne) + 1 := hround
    _ ≤ (2 * m + 1) * unitsPerOne := by
      rw [Nat.add_mul, Nat.mul_assoc, Nat.one_mul]
      omega
    _ < limit := by
      apply mul_unitsPerOne_lt_limit
      unfold signedLimit at h
      unfold wordLimit
      omega
  rw [ofQuotient, ofUnits, if_pos hlimit]
  exact ⟨_, rfl⟩

theorem Numeral.read?_decimal (n : Int) :
    Numeral.read? (decimal n) = some ⟨decide (n < 0), Nat.toDigits 10 n.natAbs, 0, 0⟩ := by
  have hdigits : ∀ c ∈ Nat.toDigits 10 n.natAbs, isAsciiDigit c = true :=
    fun c hc => isAsciiDigit_of_mem_toDigits hc
  have hunsigned : ∀ negative, unsigned? negative (Nat.toDigits 10 n.natAbs) =
      some ⟨negative, Nat.toDigits 10 n.natAbs, 0, 0⟩ := by
    intro negative
    have htake : (Nat.toDigits 10 n.natAbs).takeWhile isAsciiDigit = Nat.toDigits 10 n.natAbs :=
      List.takeWhile_eq_self_iff.2 hdigits
    have hdrop : (Nat.toDigits 10 n.natAbs).dropWhile isAsciiDigit = [] :=
      List.dropWhile_eq_nil_iff.2 hdigits
    rw [unsigned?, hdrop, htake]
    simp [Nat.toDigits_ne_nil, exponent?]
  unfold decimal
  split
  · rename_i hneg
    simp [Numeral.read?, hunsigned, hneg]
  · rename_i hneg
    obtain ⟨d, ds, hcons, hplus, hminus⟩ := exists_toDigits_eq_cons n.natAbs
    have hpositive := hunsigned false
    rw [hcons] at hpositive ⊢
    simp [Numeral.read?, hminus, hplus, hpositive, hneg]

theorem Numeral.exists_ofScientific_eq_finite (negative : Bool) (h : m ≤ signedLimit) :
    ∃ x, ofScientific negative m 0 = .finite x := by
  unfold ofScientific
  split
  · exact ⟨_, rfl⟩
  · obtain ⟨x, hx⟩ := Binary64.exists_ofQuotient_eq_finite negative h
    rw [if_neg (by decide), if_neg (by omega)]
    exact ⟨x, by simpa using hx⟩

theorem isFinite_value {n : Int} (h : IsInt64 n) {numeral : Numeral}
    (hread : Numeral.read? (decimal n) = some numeral) : ∃ x, numeral.value = .finite x := by
  obtain ⟨hlow, hhigh⟩ := h
  have hfits : n.natAbs ≤ signedLimit := by omega
  rw [Numeral.read?_decimal] at hread
  obtain rfl := Option.some.inj hread
  unfold Numeral.value
  dsimp only
  rw [foldl_toDigits]
  exact Numeral.exists_ofScientific_eq_finite _ hfits

end WorkflowGraph
