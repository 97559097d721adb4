import WorkflowGraph.Proofs.Containment
import WorkflowGraph.Proofs.Recognition
set_option autoImplicit false

namespace WorkflowGraph.Condition

open Text (isBlank continuesName trim)

variable {s : State} {p : String} {op : CompareOp} {left right path cs sign : List Char} {c : Char}

theorem parseChars_comparison (hleft : Atoms left) (hright : Atoms right) (hlne : left ≠ [])
    (hrne : right ≠ []) (hltrim : trim left = left) (hrtrim : trim right = right)
    (hsign : sign ∈ op.spellings) :
    parseChars (left ++ ' ' :: (sign ++ ' ' :: right)) =
      .compare (String.ofList left) op (String.ofList right) := by
  have hblank : ∀ c ∈ [' '], isBlank c := List.forall_mem_singleton.2 (by decide)
  let comparison : Comparison :=
    ⟨left ++ [' '], op, sign, ' ' :: right, by simp, hleft.append (atoms_of_blank hblank), hsign,
      by simp, (atoms_of_blank hblank).append hright⟩
  have htext : comparison.text = left ++ ' ' :: (sign ++ ' ' :: right) := by
    simp [comparison, Comparison.text]
  have htrim : trim (left ++ ' ' :: (sign ++ ' ' :: right)) =
      left ++ ' ' :: (sign ++ ' ' :: right) := by
    refine Text.trim_eq_self (fun c hc => ?_) fun c hc => ?_
    · rw [List.head?_append_of_ne_nil _ hlne, ← hltrim] at hc
      exact Text.isBlank_of_mem_head?_trim hc
    · have hsplit : left ++ ' ' :: (sign ++ ' ' :: right) =
          (left ++ ' ' :: (sign ++ [' '])) ++ right := by simp
      rw [hsplit, List.getLast?_append_of_ne_nil _ hrne, ← hrtrim] at hc
      exact Text.isBlank_of_mem_getLast?_trim hc
  refine parseChars_eq_compare_iff.2 ⟨comparison, htext.trans htrim.symm, ?_⟩
  have hl : trim (left ++ [' ']) = left := by
    rw [Text.trim_append_of_blank left hblank, hltrim]
  have hr : trim (' ' :: right) = right := by
    rw [← List.singleton_append, Text.trim_append_of_blank_left hblank, hrtrim]
  rw [Comparison.expr, hl, hr]

def Plain (cs : List Char) : Prop := ∀ c ∈ cs, isQuote c = false ∧ isBreak c = false

instance : DecidablePred Plain := fun cs =>
  decidable_of_iff (cs.all fun c => !isQuote c && !isBreak c) (by simp [Plain])

theorem Plain.atoms (h : Plain cs) : Atoms cs :=
  .of_plain (fun c hc => (h c hc).1) fun c hc => (Bool.or_eq_false_iff.1 (h c hc).2).2

theorem Plain.trim_eq (h : Plain cs) : trim cs = cs :=
  Text.trim_eq_self
    (fun c hc => (Bool.or_eq_false_iff.1 (h c (List.mem_of_mem_head? hc)).2).1)
    fun c hc => (Bool.or_eq_false_iff.1 (h c (List.mem_of_getLast? hc)).2).1

theorem plain_of_continuesName (h : continuesName c = true) :
    isQuote c = false ∧ isBreak c = false := by
  constructor
  · by_contra hquote
    simp only [isQuote, Bool.not_eq_false, Bool.or_eq_true, beq_iff_eq] at hquote
    rcases hquote with rfl | rfl <;> exact absurd h (by decide)
  · refine Bool.eq_false_iff.2 fun hbreak => ?_
    rw [continuesName_of_isBreak hbreak] at h
    simp at h

theorem mem_innerSegments (cs : List Char) :
    ∀ c ∈ (innerSegments cs).1, c = '.' ∨ continuesName c = true := by
  fun_induction innerSegments cs with
  | case1 d rest hd more ih =>
    intro c hc
    rw [List.mem_append, List.mem_cons, List.mem_cons] at hc
    rcases hc with (rfl | rfl | hc) | hc
    · exact .inl rfl
    · exact .inr hd
    · exact .inr (List.mem_takeWhile_imp hc)
    · exact ih c hc
  | case2 | case3 => simp

theorem IsPath.ne_nil (h : IsPath path) : path ≠ [] := by
  rintro rfl
  exact absurd h (by decide)

theorem IsPath.dot_or_continuesName (h : IsPath path) :
    ∀ c ∈ path, c = '.' ∨ continuesName c = true := by
  unfold IsPath dottedPath? at h
  cases hfield : dottedField? ('.' :: path) with
  | none => simp [hfield] at h
  | some found =>
    obtain ⟨name, after⟩ := found
    obtain ⟨-, hname, -⟩ := dottedField?_eq_some_iff.1 hfield
    rw [hfield] at h
    obtain ⟨hpath, -⟩ := Prod.mk.inj (Option.some.inj h)
    rw [← hpath]
    intro c hc
    rcases List.mem_append.1 hc with hc | hc
    · exact .inr (hname.continuesName_of_mem c hc)
    · exact mem_innerSegments after c hc

theorem IsPath.plain (h : IsPath path) : Plain (stateDot ++ path) := by
  have hstate : Plain stateDot := by decide
  intro c hc
  rcases List.mem_append.1 hc with hc | hc
  · exact hstate c hc
  · rcases h.dot_or_continuesName c hc with rfl | hname
    · decide
    · exact plain_of_continuesName hname

theorem continuesName_of_isAsciiDigit (h : Text.isAsciiDigit c = true) :
    continuesName c = true := by
  have hsmall : c.toNat < 0x80 := by
    have := (isAsciiDigit_iff.1 h).2
    omega
  simp [continuesName, Text.isWord, hsmall, h]

/-- A literal that stands for the same value on every state, or for none. -/
inductive Literal where
  | string (q : Char) (content : String) (quote : isQuote q = true) (closed : q ∉ content.toList)
  | integer (n : Int) (fits : IsInt64 n)
  | bool (b : Bool)
  | null
  | undefined

namespace Literal

def text : Literal → String
  | string q content _ _ => String.singleton q ++ content ++ String.singleton q
  | integer n _ => toString n
  | bool b => if b then "true" else "false"
  | null => "null"
  | undefined => "undefined"

def value? : Literal → Option Json
  | string _ content _ _ => some (.string content)
  | integer n _ => some (.number (.int n))
  | bool b => some (.bool b)
  | null => some .null
  | undefined => none

/-- What the value at a path is if it is the one that the literal spells. Numbers count by their
floating value. -/
def Describes : Literal → Option Json → Prop
  | string _ content _ _, v => v = some (.string content)
  | integer n _, v => ∃ m : Json.Number, v = some (.number m) ∧ m.value.eq (Binary64.ofInt n) = true
  | bool b, v => v = some (.bool b)
  | null, v => v = some .null
  | undefined, v => v = none

theorem toList_text_string {q : Char} {content : String} (quote : isQuote q = true)
    (closed : q ∉ content.toList) :
    (string q content quote closed).text.toList = q :: (content.toList ++ [q]) := by
  simp [text]

end Literal

theorem plain_decimal (n : Int) : Plain (decimal n) := by
  have hdigits : Plain (Nat.toDigits 10 n.natAbs) := fun c hc =>
    plain_of_continuesName (continuesName_of_isAsciiDigit (isAsciiDigit_of_mem_toDigits hc))
  unfold decimal
  split
  · exact List.forall_mem_cons.2 ⟨by decide, hdigits⟩
  · exact hdigits

theorem exists_decimal_eq_cons (n : Int) :
    ∃ c rest, decimal n = c :: rest ∧ startsNumeral c = true := by
  unfold decimal
  split
  · exact ⟨_, _, rfl, by decide⟩
  · obtain ⟨d, ds, h⟩ := List.exists_cons_of_ne_nil (Nat.toDigits_ne_nil (n := n.natAbs) (b := 10))
    have hd : Text.isAsciiDigit d = true := isAsciiDigit_of_mem_toDigits (h ▸ List.mem_cons_self)
    exact ⟨d, ds, h, by simp [startsNumeral, hd]⟩

theorem infinite?_decimal {n : Int} (h : IsInt64 n) : infinite? (decimal n) = none := by
  have hread := Numeral.read?_decimal n
  obtain ⟨x, hx⟩ := isFinite_value h hread
  rw [infinite?, hread, Option.map_some, hx]

theorem literal?_decimal {n : Int} (h : IsInt64 n) :
    literal? (decimal n) = some (.number (.int n)) := by
  have hnumber : number? (decimal n) = some (.int n) := by
    rw [number?, Numeral.read?_decimal, readInt64?_decimal h]
  obtain ⟨c, rest, hcons, hstarts⟩ := exists_decimal_eq_cons n
  rw [hcons] at hnumber ⊢
  have hne : ∀ d, startsNumeral d = false → c ≠ d := by
    rintro d hd rfl
    rw [hstarts] at hd
    simp at hd
  have hquote : isQuote c = false := by
    simp [isQuote, hne '\'' (by decide), hne '"' (by decide)]
  have hbracket : isBracketed (c :: rest) = false := by
    simp [isBracketed, hne '[' (by decide)]
  simp [literal?, unquote?, hquote, hbracket, hnumber]

namespace Literal

theorem atoms_text (l : Literal) : Atoms l.text.toList := by
  cases l with
  | string q content quote closed =>
    rw [toList_text_string]
    exact .quoted quote closed trivial .nil
  | integer n =>
    rw [text, toList_toString]
    exact (plain_decimal n).atoms
  | bool b => cases b <;> exact Plain.atoms (by decide)
  | null | undefined => exact Plain.atoms (by decide)

theorem trim_text (l : Literal) : trim l.text.toList = l.text.toList := by
  cases l with
  | string q content quote closed =>
    rw [toList_text_string]
    refine Text.trim_eq_self (fun c hc => ?_) fun c hc => ?_
    · obtain rfl : q = c := Option.some.inj hc
      exact isBlank_of_isQuote quote
    · rw [← List.cons_append, List.getLast?_concat] at hc
      obtain rfl : q = c := Option.some.inj hc
      exact isBlank_of_isQuote quote
  | integer n =>
    rw [text, toList_toString]
    exact (plain_decimal n).trim_eq
  | bool b => cases b <;> decide
  | null | undefined => decide

theorem text_ne_nil (l : Literal) : l.text.toList ≠ [] := by
  cases l with
  | string q content quote closed =>
    rw [toList_text_string]
    exact List.cons_ne_nil _ _
  | integer n =>
    rw [text, toList_toString]
    unfold decimal
    split
    · exact List.cons_ne_nil _ _
    · exact Nat.toDigits_ne_nil
  | bool b => cases b <;> decide
  | null | undefined => decide

theorem literal?_text (l : Literal) : literal? l.text.toList = l.value? := by
  cases l with
  | string q content quote closed =>
    rw [toList_text_string]
    simp [literal?, unquote?, quote, value?]
  | integer n fits =>
    rw [text, toList_toString]
    exact literal?_decimal fits
  | bool b => cases b <;> rfl
  | null | undefined => rfl

theorem infinite?_text (l : Literal) : infinite? l.text.toList = none := by
  cases l with
  | string q content quote closed =>
    have hstarts : startsNumeral q = false := by
      simp only [isQuote, Bool.or_eq_true, beq_iff_eq] at quote
      rcases quote with rfl | rfl <;> decide
    rw [toList_text_string]
    exact infinite?_cons_eq_none hstarts _
  | integer n fits =>
    rw [text, toList_toString]
    exact infinite?_decimal fits
  | bool b => cases b <;> exact infinite?_cons_eq_none (by decide) _
  | null | undefined => exact infinite?_cons_eq_none (by decide) _

theorem path?_text (l : Literal) : path? l.text = none := by
  rw [path?, trim_text, Option.eq_none_iff_forall_ne_some]
  intro path hpath
  have hchars := statePath?_eq_some_iff.1 hpath
  cases l with
  | string q content quote closed =>
    rw [toList_text_string] at hchars
    obtain rfl : q = 's' := (List.cons.inj hchars).1
    exact absurd quote (by decide)
  | integer n =>
    obtain ⟨c, rest, hcons, hstarts⟩ := exists_decimal_eq_cons n
    rw [text, toList_toString, hcons] at hchars
    obtain rfl : c = 's' := (List.cons.inj hchars).1
    exact absurd hstarts (by decide)
  | bool b => cases b <;> exact absurd (List.cons.inj hchars).1 (by decide)
  | null | undefined => exact absurd (List.cons.inj hchars).1 (by decide)

theorem operand_text (l : Literal) (s : State) : operand l.text s = .of l.value? := by
  have hfinite : infinite? (trim l.text.toList) = none := by
    rw [l.trim_text, l.infinite?_text]
  rw [operand_of_finite hfinite, resolve?_of_literal l.path?_text, l.trim_text, l.literal?_text]

theorem strictEquals_value?_iff (l : Literal) (v : Option Json) :
    strictEquals false (.of v) (.of l.value?) = true ↔ l.Describes v := by
  cases v with
  | none => cases l <;> simp [Operand.of, value?, strictEquals, Describes]
  | some v =>
    cases l with
    | undefined => simp [Operand.of, value?, strictEquals, Describes]
    | integer n =>
      cases v <;>
        simp [Operand.of, value?, strictEquals, scalarEquals, Json.isContainer, Describes,
          Json.Number.value]
    | string | bool | null =>
      cases v <;>
        simp [Operand.of, value?, strictEquals, scalarEquals, Json.isContainer, Describes]

def condition (l : Literal) (p sign : String) : String :=
  "state." ++ p ++ " " ++ sign ++ " " ++ l.text

theorem evaluate_condition (l : Literal) (hp : IsPath p.toList) {sign : String}
    (hsign : sign.toList ∈ op.spellings) (s : State) :
    evaluate (l.condition p sign) s = op.holds false (.of (s.getPath p)) (.of l.value?) := by
  have hchars : (l.condition p sign).toList =
      (stateDot ++ p.toList) ++ ' ' :: (sign.toList ++ ' ' :: l.text.toList) := by
    simp [condition, stateDot]
  have hpath : path? (String.ofList (stateDot ++ p.toList)) = some p.toList := by
    rw [path?, String.toList_ofList, hp.plain.trim_eq]
    rfl
  have hsame : samePath (String.ofList (stateDot ++ p.toList)) l.text = false := by
    refine Bool.eq_false_iff.2 fun hsame => ?_
    obtain ⟨path, -, hliteral⟩ := samePath_iff.1 hsame
    rw [l.path?_text] at hliteral
    simp at hliteral
  have hparse : parse (l.condition p sign) =
      .compare (String.ofList (stateDot ++ p.toList)) op l.text := by
    rw [parse, hchars, parseChars_comparison hp.plain.atoms l.atoms_text
      (by simp [stateDot]) l.text_ne_nil hp.plain.trim_eq l.trim_text hsign,
      String.ofList_toList]
  rw [evaluate, hparse, Expr.eval, hsame, operand_of_path hpath, String.ofList_toList,
    l.operand_text]

end Literal

/-- A comparison of a path with a literal holds exactly if the value at the path is the one that the
literal spells. The two ways to write an equality say the same, and the two ways to write an
inequality the opposite. -/
theorem evaluate_literal (s : State) (p : String) (hp : IsPath p.toList) (l : Literal) :
    (evaluate (l.condition p "==") s = true ↔ l.Describes (s.getPath p)) ∧
    evaluate (l.condition p "===") s = evaluate (l.condition p "==") s ∧
    evaluate (l.condition p "!=") s = !evaluate (l.condition p "==") s ∧
    evaluate (l.condition p "!==") s = !evaluate (l.condition p "==") s := by
  have heq := fun (op : CompareOp) (sign : String) (hsign : sign.toList ∈ op.spellings) =>
    l.evaluate_condition hp hsign s
  rw [heq .eq "==" (by decide), heq .eq "===" (by decide), heq .notEq "!=" (by decide),
    heq .notEq "!==" (by decide)]
  exact ⟨l.strictEquals_value?_iff _, rfl, rfl, rfl⟩

def noted : State :=
  Fields.ofList [("log", Json.ofMembers [("text", .string "it's && \n !=")]),
    ("n", .number (.float ⟨true, 3 * Binary64.unitsPerOne⟩))]

theorem noted_evaluate :
    evaluate "state.log.text === \"it's && \n !=\"" noted = true ∧
      evaluate "state.n == -3" noted = true ∧ evaluate "state.log != undefined" noted = true := by
  have htext := evaluate_literal noted "log.text" (by decide +kernel)
    (.string '"' "it's && \n !=" (by decide) (by decide))
  have hnumber := evaluate_literal noted "n" (by decide +kernel) (.integer (-3) (by decide))
  have hmissing := evaluate_literal noted "log" (by decide +kernel) .undefined
  have hlog : (noted.getPath "log").isSome = true := rfl
  refine ⟨htext.2.1.trans (htext.1.2 rfl), hnumber.1.2 ⟨_, rfl, by decide +kernel⟩, ?_⟩
  have hpresent : evaluate (Literal.undefined.condition "log" "==") noted = false := by
    refine Bool.eq_false_iff.2 fun h => ?_
    rw [show noted.getPath "log" = none from hmissing.1.1 h] at hlog
    simp at hlog
  rw [hpresent] at hmissing
  exact hmissing.2.2.1

end WorkflowGraph.Condition
