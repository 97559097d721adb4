import WorkflowGraph.Condition.Evaluation
import WorkflowGraph.Proofs.Decimals
import Mathlib.Data.List.Basic
set_option autoImplicit false

namespace WorkflowGraph

open Text (isAsciiDigit)

namespace Numeral

variable {cs ds : List Char} {c : Char}

def IsDigits (ds : List Char) : Prop := ds ≠ [] ∧ ∀ c ∈ ds, isAsciiDigit c = true

def Signed (P : List Char → Prop) (cs : List Char) : Prop :=
  ∃ m, P m ∧ (cs = m ∨ cs = '+' :: m ∨ cs = '-' :: m)

def IsExponent (cs : List Char) : Prop :=
  cs = [] ∨ ∃ e rest, (e = 'e' ∨ e = 'E') ∧ Signed IsDigits rest ∧ cs = e :: rest

inductive IsMagnitude : List Char → Prop
  | whole {ds ex : List Char} : IsDigits ds → IsExponent ex → IsMagnitude (ds ++ ex)
  | pointed {ds fs ex : List Char} : IsDigits ds → (∀ c ∈ fs, isAsciiDigit c = true) →
      IsExponent ex → IsMagnitude (ds ++ '.' :: (fs ++ ex))
  | fraction {fs ex : List Char} : IsDigits fs → IsExponent ex → IsMagnitude ('.' :: (fs ++ ex))

def IsInfinity (cs : List Char) : Prop := Signed (· = "Infinity".toList) cs

inductive Radix where
  | binary
  | octal
  | hexadecimal
deriving DecidableEq, Repr

namespace Radix

def marks : Radix → List Char
  | binary => ['b', 'B']
  | octal => ['o', 'O']
  | hexadecimal => ['x', 'X']

def isDigit : Radix → Char → Bool
  | binary, c => '0' ≤ c && c ≤ '1'
  | octal, c => '0' ≤ c && c ≤ '7'
  | hexadecimal, c => isAsciiDigit c || ('a' ≤ c && c ≤ 'f') || ('A' ≤ c && c ≤ 'F')

end Radix

def IsMarked (radix : Radix) (cs : List Char) : Prop :=
  ∃ mark ds, mark ∈ radix.marks ∧ (ds ≠ [] ∧ ∀ d ∈ ds, radix.isDigit d = true) ∧
    cs = '0' :: mark :: ds

inductive IsLiteral : List Char → Prop
  | empty : IsLiteral []
  | decimal {cs : List Char} : Signed IsMagnitude cs → IsLiteral cs
  | infinity {cs : List Char} : IsInfinity cs → IsLiteral cs
  | marked {radix : Radix} {cs : List Char} : IsMarked radix cs → IsLiteral cs

theorem isAsciiDigit_ne {d : Char} (hc : isAsciiDigit c = true) (hd : isAsciiDigit d = false) :
    c ≠ d := by
  rintro rfl
  rw [hc] at hd
  simp at hd

theorem isSome_wholeNumber?_iff : (wholeNumber? 10 ds).isSome = true ↔ IsDigits ds := by
  simp only [Option.isSome_iff_exists, wholeNumber?_eq_some_iff, IsWholeNumber, IsDigits]
  constructor
  · rintro ⟨n, hne, hall, -⟩
    exact ⟨hne, hall⟩
  · rintro ⟨hne, hall⟩
    exact ⟨_, hne, hall, rfl⟩

/-- Reading an optional sign and then one of two readings that accept the same texts, none of which
starts with a sign. -/
theorem isSome_signed_iff {α : Type} {P : List Char → Prop} {minus plus : List Char → Option α}
    (hminus : ∀ cs, (minus cs).isSome = true ↔ P cs) (hplus : ∀ cs, (plus cs).isSome = true ↔ P cs)
    (hnone : ∀ c cs, P (c :: cs) → c ≠ '-' ∧ c ≠ '+') (cs : List Char) :
    (match cs with
      | '-' :: rest => minus rest
      | '+' :: rest => plus rest
      | cs => plus cs).isSome = true ↔ Signed P cs := by
  -- A text of the kind itself does not start with a sign, so the cases of the match do not overlap.
  have hsign : ∀ c m rest, P m → c = '-' ∨ c = '+' → c :: rest ≠ m := by
    rintro c m rest hm hc rfl
    exact hc.elim (hnone c rest hm).1 (hnone c rest hm).2
  split
  · rename_i rest
    rw [hminus]
    constructor
    · exact fun h => ⟨rest, h, .inr (.inr rfl)⟩
    · rintro ⟨m, hm, heq | heq | heq⟩
      · exact absurd heq (hsign _ m rest hm (.inl rfl))
      · simp at heq
      · exact (List.cons.inj heq).2 ▸ hm
  · rename_i rest
    rw [hplus]
    constructor
    · exact fun h => ⟨rest, h, .inr (.inl rfl)⟩
    · rintro ⟨m, hm, heq | heq | heq⟩
      · exact absurd heq (hsign _ m rest hm (.inr rfl))
      · exact (List.cons.inj heq).2 ▸ hm
      · simp at heq
  · rename_i hminus' hplus'
    rw [hplus]
    constructor
    · exact fun h => ⟨cs, h, .inl rfl⟩
    · rintro ⟨m, hm, rfl | rfl | rfl⟩
      · exact hm
      · exact absurd rfl (hplus' m)
      · exact absurd rfl (hminus' m)

theorem isSome_exponent?_cons {e : Char} {rest : List Char} (he : e = 'e' ∨ e = 'E') :
    (exponent? (e :: rest)).isSome = true ↔ Signed IsDigits rest := by
  unfold exponent?
  dsimp only
  rw [if_pos he]
  refine isSome_signed_iff (fun ds => ?_) (fun ds => ?_) (fun c cs h => ?_) rest
  · rw [← isSome_wholeNumber?_iff]
    cases wholeNumber? 10 ds <;> rfl
  · rw [← isSome_wholeNumber?_iff]
    cases wholeNumber? 10 ds <;> rfl
  · have hc := h.2 c List.mem_cons_self
    exact ⟨isAsciiDigit_ne hc (by decide), isAsciiDigit_ne hc (by decide)⟩

theorem isSome_exponent?_iff : (exponent? cs).isSome = true ↔ IsExponent cs := by
  constructor
  · intro h
    cases cs with
    | nil => exact .inl rfl
    | cons e rest =>
      by_cases he : e = 'e' ∨ e = 'E'
      · exact .inr ⟨e, rest, he, (isSome_exponent?_cons he).1 h, rfl⟩
      · unfold exponent? at h
        dsimp only at h
        rw [if_neg he] at h
        simp at h
  · rintro (rfl | ⟨e, rest, he, hrest, rfl⟩)
    · rfl
    · exact (isSome_exponent?_cons he).2 hrest

theorem IsExponent.head?_not_digit (h : IsExponent cs) :
    ∀ c ∈ cs.head?, isAsciiDigit c = false ∧ c ≠ '.' := by
  rcases h with rfl | ⟨e, rest, he, -, rfl⟩
  · simp
  · intro c hc
    obtain rfl : e = c := by simpa using hc
    rcases he with rfl | rfl <;> decide

theorem takeWhile_digits (hds : ∀ c ∈ ds, isAsciiDigit c = true) (cs : List Char)
    (hcs : ∀ c ∈ cs.head?, isAsciiDigit c = false) :
    (ds ++ cs).takeWhile isAsciiDigit = ds ∧ (ds ++ cs).dropWhile isAsciiDigit = cs := by
  rw [List.takeWhile_append_of_pos hds, List.dropWhile_append_of_pos hds]
  cases cs with
  | nil => simp
  | cons c cs => simp [hcs c rfl]

theorem isSome_unsigned?_of_pointed {fs ex : List Char} (negative : Bool)
    (hds : ∀ c ∈ ds, isAsciiDigit c = true) (hfs : ∀ c ∈ fs, isAsciiDigit c = true)
    (hne : ds ≠ [] ∨ fs ≠ []) (hex : IsExponent ex) :
    (unsigned? negative (ds ++ '.' :: (fs ++ ex))).isSome = true := by
  obtain ⟨htake, hdrop⟩ := takeWhile_digits hds ('.' :: (fs ++ ex)) (by simp; decide)
  obtain ⟨hftake, hfdrop⟩ := takeWhile_digits hfs ex fun c hc => (hex.head?_not_digit c hc).1
  have hsome : ¬ (ds.isEmpty && fs.isEmpty) = true := by
    simpa [-not_and, not_and_or] using hne
  unfold unsigned?
  rw [htake, hdrop]
  split
  · rename_i rest hrest
    obtain rfl := (List.cons.inj hrest).2
    rw [hftake, hfdrop, if_neg hsome, Option.isSome_map, isSome_exponent?_iff]
    exact hex
  · rename_i hpoint
    exact absurd rfl (hpoint (fs ++ ex))

theorem isSome_unsigned?_of_whole {ex : List Char} (negative : Bool) (hds : IsDigits ds)
    (hex : IsExponent ex) : (unsigned? negative (ds ++ ex)).isSome = true := by
  obtain ⟨htake, hdrop⟩ := takeWhile_digits hds.2 ex fun c hc => (hex.head?_not_digit c hc).1
  unfold unsigned?
  rw [htake, hdrop]
  split
  · exact absurd rfl (hex.head?_not_digit '.' (by simp)).2
  · rw [if_neg (by simpa using hds.1), Option.isSome_map, isSome_exponent?_iff]
    exact hex

theorem isMagnitude_of_unsigned? {negative : Bool} (h : (unsigned? negative cs).isSome = true) :
    IsMagnitude cs := by
  have hdigits : ∀ cs : List Char, ∀ c ∈ cs.takeWhile isAsciiDigit, isAsciiDigit c = true :=
    fun cs c hc => List.mem_takeWhile_imp hc
  rw [← List.takeWhile_append_dropWhile (p := isAsciiDigit) (l := cs)]
  unfold unsigned? at h
  dsimp only at h
  split at h
  · rename_i rest hdrop
    rw [hdrop, ← List.takeWhile_append_dropWhile (p := isAsciiDigit) (l := rest)]
    split_ifs at h with hnone
    · simp at h
    · rw [Option.isSome_map, isSome_exponent?_iff] at h
      by_cases hwhole : cs.takeWhile isAsciiDigit = []
      · rw [hwhole]
        exact .fraction ⟨by simpa [hwhole] using hnone, hdigits rest⟩ h
      · exact .pointed ⟨hwhole, hdigits cs⟩ (hdigits rest) h
  · split_ifs at h with hnone
    · simp at h
    · rw [Option.isSome_map, isSome_exponent?_iff] at h
      exact .whole ⟨by simpa using hnone, hdigits cs⟩ h

theorem isSome_unsigned?_iff (negative : Bool) :
    (unsigned? negative cs).isSome = true ↔ IsMagnitude cs := by
  refine ⟨isMagnitude_of_unsigned?, fun h => ?_⟩
  cases h with
  | whole hds hex => exact isSome_unsigned?_of_whole negative hds hex
  | pointed hds hfs hex => exact isSome_unsigned?_of_pointed negative hds.2 hfs (.inl hds.1) hex
  | fraction hfs hex =>
    exact isSome_unsigned?_of_pointed negative (List.forall_mem_nil _) hfs.2 (.inr hfs.1) hex

theorem IsMagnitude.head?_digit (h : IsMagnitude cs) :
    ∀ c ∈ cs.head?, c = '.' ∨ isAsciiDigit c = true := by
  have hdigits : ∀ (ds rest : List Char), IsDigits ds →
      ∀ c ∈ (ds ++ rest).head?, isAsciiDigit c = true := by
    intro ds rest hds c hc
    rw [List.head?_append_of_ne_nil _ hds.1] at hc
    exact hds.2 c (List.mem_of_mem_head? hc)
  cases h with
  | whole hds => exact fun c hc => .inr (hdigits _ _ hds c hc)
  | pointed hds => exact fun c hc => .inr (hdigits _ _ hds c hc)
  | fraction => simp

theorem isSome_read?_iff : (read? cs).isSome = true ↔ Signed IsMagnitude cs := by
  unfold read?
  refine isSome_signed_iff (fun cs => isSome_unsigned?_iff true)
    (fun cs => isSome_unsigned?_iff false) (fun c cs h => ?_) cs
  rcases h.head?_digit c rfl with rfl | hc
  · decide
  · exact ⟨isAsciiDigit_ne hc (by decide), isAsciiDigit_ne hc (by decide)⟩

theorem isInfinity_iff : IsInfinity cs ↔ (String.ofList cs = "Infinity" ∨
    String.ofList cs = "+Infinity") ∨ String.ofList cs = "-Infinity" := by
  have hword : ∀ t, String.ofList cs = t ↔ cs = t.toList := fun t => by
    rw [← String.toList_inj, String.toList_ofList]
  rw [hword, hword, hword, or_assoc]
  constructor
  · rintro ⟨m, rfl, h⟩
    exact h
  · exact fun h => ⟨_, rfl, h⟩

theorem IsInfinity.exists_cons (h : IsInfinity cs) :
    ∃ c rest, cs = c :: rest ∧ (c = 'I' ∨ c = '+' ∨ c = '-') := by
  obtain ⟨m, rfl, rfl | rfl | rfl⟩ := h
  · exact ⟨'I', "nfinity".toList, rfl, .inl rfl⟩
  · exact ⟨'+', _, rfl, .inr (.inl rfl)⟩
  · exact ⟨'-', _, rfl, .inr (.inr rfl)⟩

theorem IsMarked.not_isInfinity {radix : Radix} (h : IsMarked radix cs) : ¬ IsInfinity cs := by
  intro hinfinity
  obtain ⟨c, rest, rfl, hc⟩ := hinfinity.exists_cons
  obtain ⟨mark, ds, -, -, heq⟩ := h
  obtain rfl := (List.cons.inj heq).1
  simp at hc

theorem Radix.eq_of_mem_marks {a b : Radix} (ha : c ∈ a.marks) (hb : c ∈ b.marks) : a = b := by
  have hdisjoint : ∀ a b : Radix, a ≠ b → ∀ mark ∈ a.marks, mark ∉ b.marks := by
    intro a b
    cases a <;> cases b <;> simp [Radix.marks]
  by_contra hne
  exact hdisjoint a b hne c ha hb

theorem IsMarked.radix_unique {a b : Radix} (ha : IsMarked a cs) (hb : IsMarked b cs) : a = b := by
  obtain ⟨mark, ds, hmark, -, rfl⟩ := ha
  obtain ⟨mark', ds', hmark', -, heq⟩ := hb
  obtain rfl := (List.cons.inj (List.cons.inj heq).2).1
  exact Radix.eq_of_mem_marks hmark hmark'

theorem IsMarked.read?_eq_none {radix : Radix} (h : IsMarked radix cs) : read? cs = none := by
  obtain ⟨mark, ds, hmark, -, rfl⟩ := h
  have hstop : ∀ mark ∈ radix.marks,
      isAsciiDigit mark = false ∧ mark ≠ '.' ∧ mark ≠ 'e' ∧ mark ≠ 'E' := by
    cases radix <;> simp [Radix.marks, isAsciiDigit]
  obtain ⟨hdigit, hdot, he, hE⟩ := hstop mark hmark
  have hzero : isAsciiDigit '0' = true := by decide
  simp [read?, unsigned?, exponent?, hzero, hdigit, hdot, he, hE]

theorem digitValue_lt_sixteen_iff : digitValue c < 16 ↔ Radix.hexadecimal.isDigit c = true := by
  have hle : ∀ a b : Char, a ≤ b ↔ a.toNat ≤ b.toNat := fun a b => UInt32.le_iff_toNat_le
  simp only [digitValue, Radix.isDigit, isAsciiDigit, Bool.or_eq_true, Bool.and_eq_true,
    decide_eq_true_eq, hle, Char.reduceToNat]
  split_ifs <;> omega

end Numeral

namespace Condition

open Numeral
open Text (trim)

variable {cs ds : List Char} {c : Char} {left : Operand} {samePath : Bool}

theorem foldl_pushHexDigit_ne_nan {x : Binary64} (hx : x ≠ .nan) (ds : List Char) :
    ds.foldl (fun x c => x.pushHexDigit (digitValue c)) x ≠ .nan := by
  induction ds generalizing x with
  | nil => exact hx
  | cons d ds ih => exact ih (Binary64.pushHexDigit_ne_nan hx _)

theorem hexNumber_ne_nan_iff :
    hexNumber ds ≠ .nan ↔ ds ≠ [] ∧ ∀ d ∈ ds, Radix.hexadecimal.isDigit d = true := by
  have hcheck : (ds.isEmpty || !ds.all fun c => digitValue c < 16) = false ↔
      ds ≠ [] ∧ ∀ d ∈ ds, Radix.hexadecimal.isDigit d = true := by
    simp [digitValue_lt_sixteen_iff]
  rw [← hcheck]
  unfold hexNumber
  split
  · rename_i h
    simp [h]
  · rename_i h
    simpa [h] using foldl_pushHexDigit_ne_nan (by simp) ds

theorem isMarked_hexadecimal_iff : IsMarked .hexadecimal ('0' :: c :: ds) ↔
    (c = 'x' ∨ c = 'X') ∧ hexNumber ds ≠ .nan := by
  rw [hexNumber_ne_nan_iff]
  constructor
  · rintro ⟨mark, ds', hmark, hds, heq⟩
    obtain ⟨rfl, rfl⟩ := List.cons.inj (List.cons.inj heq).2
    exact ⟨by simpa [Radix.marks] using hmark, hds⟩
  · rintro ⟨hmark, hds⟩
    exact ⟨c, ds, by simpa [Radix.marks] using hmark, hds, rfl⟩

/-- A string counts as a number if it is blank or spells a decimal, an infinity or a hexadecimal. -/
theorem stringNumber_ne_nan_iff_reads {s : String} (hcs : trim s.toList = cs) :
    stringNumber s ≠ .nan ↔
      cs = [] ∨ Signed IsMagnitude cs ∨ IsInfinity cs ∨ IsMarked .hexadecimal cs := by
  unfold stringNumber
  rw [hcs, ← isSome_read?_iff]
  dsimp only
  split
  · rename_i hempty
    simp [List.isEmpty_iff.1 hempty]
  · rename_i hempty
    have hne : cs ≠ [] := fun h => hempty (List.isEmpty_iff.2 h)
    split
    · rename_i numeral hread
      simp [hread, numeral.value_ne_nan]
    · rename_i hread
      have hword : ∀ rest, ¬ IsInfinity ('0' :: rest) := by
        intro rest h
        obtain ⟨c, rest', heq, hc⟩ := h.exists_cons
        obtain rfl := (List.cons.inj heq).1
        simp at hc
      split
      · simp [hread, hword, isMarked_hexadecimal_iff]
      · simp [hread, hword, isMarked_hexadecimal_iff]
      · rename_i hx hX
        have hmarked : ¬ IsMarked .hexadecimal cs := by
          rintro ⟨mark, ds, hmark, -, rfl⟩
          have hmark' : mark = 'x' ∨ mark = 'X' := by simpa [Radix.marks] using hmark
          rcases hmark' with rfl | rfl
          · exact hx ds rfl
          · exact hX ds rfl
        rw [isInfinity_iff]
        split_ifs with hplus hminus
        · simp [hplus]
        · simp [hminus]
        · simp [hne, hread, hplus, hminus, hmarked]

theorem eq_hexadecimal_of_isMarked {s : String} {radix : Radix} (h : stringNumber s ≠ .nan)
    (hmarked : IsMarked radix (trim s.toList)) : radix = .hexadecimal := by
  rcases (stringNumber_ne_nan_iff_reads rfl).1 h with hnil | hdecimal | hinfinity | hhex
  · obtain ⟨mark, ds, -, -, heq⟩ := hmarked
    simp [hnil] at heq
  · rw [← isSome_read?_iff, hmarked.read?_eq_none] at hdecimal
    simp at hdecimal
  · exact absurd hinfinity hmarked.not_isInfinity
  · exact hmarked.radix_unique hhex

theorem ne_nan_of_lt {x y : Binary64} (h : x.lt y = true) : x ≠ .nan ∧ y ≠ .nan := by
  cases x <;> cases y <;> simp [Binary64.lt] at h ⊢

theorem ne_nan_of_le {x y : Binary64} (h : x.le y = true) : x ≠ .nan ∧ y ≠ .nan := by
  cases x <;> cases y <;> simp [Binary64.le, Binary64.lt, Binary64.eq] at h ⊢

def CompareOp.orders : List CompareOp := [.lt, .gt, .lte, .gte]

/-- An operand that counts as a number is at most itself, any other compares with nothing. -/
theorem exists_holds_iff : (∃ op ∈ CompareOp.orders, ∃ right, op.holds samePath left right = true) ↔
    left.toNumber ≠ .nan := by
  constructor
  · rintro ⟨op, hop, right, h⟩
    cases op with
    | eq | notEq => simp [CompareOp.orders] at hop
    | lt => exact (ne_nan_of_lt h).1
    | gt => exact (ne_nan_of_lt h).2
    | lte => exact (ne_nan_of_le h).1
    | gte => exact (ne_nan_of_le h).2
  · intro h
    have hself : left.toNumber.eq left.toNumber = true := (Binary64.eq_self_iff _).2 h
    exact ⟨.lte, by decide, left, by simp [CompareOp.holds, Binary64.le, hself]⟩

/-- A string counts as a number, and can stand in a comparison by order that holds, exactly if it
spells a numeric literal whose mark, if it has one, is that of base sixteen. -/
theorem stringNumber_ne_nan_iff (s : String) :
    (stringNumber s ≠ .nan ↔ IsLiteral (trim s.toList) ∧
      ∀ radix, IsMarked radix (trim s.toList) → radix = .hexadecimal) ∧
    (stringNumber s ≠ .nan ↔ ∃ op ∈ CompareOp.orders, ∃ right,
      op.holds false (.value (.string s)) right = true) := by
  refine ⟨⟨fun h => ⟨?_, fun radix => eq_hexadecimal_of_isMarked h⟩, ?_⟩, ?_⟩
  · rcases (stringNumber_ne_nan_iff_reads rfl).1 h with hnil | hdecimal | hinfinity | hhex
    · exact hnil ▸ .empty
    · exact .decimal hdecimal
    · exact .infinity hinfinity
    · exact .marked hhex
  · rintro ⟨hliteral, hradix⟩
    refine (stringNumber_ne_nan_iff_reads rfl).2 ?_
    generalize trim s.toList = cs at hliteral hradix ⊢
    cases hliteral with
    | empty => exact .inl rfl
    | decimal h => exact .inr (.inl h)
    | infinity h => exact .inr (.inr (.inl h))
    | marked h => exact .inr (.inr (.inr (hradix _ h ▸ h)))
  · rw [exists_holds_iff, Operand.toNumber, toNumber]

/-- A literal in base eight is not even at most itself. -/
theorem octal_literal_is_nan :
    IsLiteral (trim "0o17".toList) ∧ stringNumber "0o17" = .nan ∧
      evaluate "state.v <= state.v" (Fields.ofList [("v", .string "0o17")]) = false := by
  have hmarked : IsMarked .octal (trim "0o17".toList) :=
    ⟨'o', ['1', '7'], by decide, by simp [Radix.isDigit], by decide⟩
  exact ⟨.marked hmarked, by decide +kernel, by decide +kernel⟩

end Condition

end WorkflowGraph
