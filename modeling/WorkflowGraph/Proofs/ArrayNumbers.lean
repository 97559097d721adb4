import WorkflowGraph.Proofs.NumericText
import WorkflowGraph.Proofs.Trimming
import WorkflowGraph.Text.Pieces
set_option autoImplicit false

/-!
# Arrays that count as numbers

An array counts as the number that its text spells, the texts of its items joined by commas, and a
number within arrays of one item as itself (`toNumber_array`). That text is never written: two items
or more are parted by a comma, which no numeric literal holds, so of the arrays that are not empty
only those of one item can count as numbers, and their text is that of the item.
-/
namespace WorkflowGraph

theorem Text.mem_trim {cs : List Char} {c : Char} (hc : isBlank c = false) (h : c ∈ cs) :
    c ∈ trim cs := by
  obtain ⟨before, hbefore, hstart⟩ := exists_blanks_before cs
  obtain ⟨after, hafter, hend⟩ := exists_blanks_after (trimStart cs)
  have hnot : ∀ blanks : List Char, (∀ b ∈ blanks, isBlank b) → c ∉ blanks := by
    intro blanks hblanks hmem
    rw [hblanks c hmem] at hc
    simp at hc
  rw [← hstart, ← hend, List.mem_append, List.mem_append] at h
  rcases h with h | h | h
  · exact absurd h (hnot before hbefore)
  · exact h
  · exact absurd h (hnot after hafter)

namespace Numeral

variable {cs ds : List Char}

theorem IsDigits.comma_notMem (h : IsDigits ds) : ',' ∉ ds :=
  fun hmem => absurd (h.2 ',' hmem) (by decide)

theorem Signed.comma_notMem {P : List Char → Prop} (h : Signed P cs)
    (hP : ∀ m, P m → ',' ∉ m) : ',' ∉ cs := by
  obtain ⟨m, hm, rfl | rfl | rfl⟩ := h
  · exact hP cs hm
  · simpa using hP m hm
  · simpa using hP m hm

theorem IsExponent.comma_notMem (h : IsExponent cs) : ',' ∉ cs := by
  rcases h with rfl | ⟨e, rest, he, hrest, rfl⟩
  · simp
  · have hnot := hrest.comma_notMem fun _ hds => hds.comma_notMem
    rcases he with rfl | rfl <;> simpa using hnot

theorem IsMagnitude.comma_notMem (h : IsMagnitude cs) : ',' ∉ cs := by
  cases h with
  | whole hds hex => simpa using ⟨hds.comma_notMem, hex.comma_notMem⟩
  | @pointed ds fs ex hds hfs hex =>
    have hfraction : ',' ∉ fs := fun hmem => absurd (hfs ',' hmem) (by decide)
    simpa using ⟨hds.comma_notMem, hfraction, hex.comma_notMem⟩
  | fraction hfs hex => simpa using ⟨hfs.comma_notMem, hex.comma_notMem⟩

theorem IsInfinity.comma_notMem (h : IsInfinity cs) : ',' ∉ cs :=
  Signed.comma_notMem h (by rintro m rfl; decide)

theorem IsMarked.comma_notMem (h : IsMarked .hexadecimal cs) : ',' ∉ cs := by
  obtain ⟨mark, ds, hmark, ⟨-, hds⟩, rfl⟩ := h
  have hdigits : ',' ∉ ds := fun hmem => absurd (hds ',' hmem) (by decide)
  have hmark' : mark = 'x' ∨ mark = 'X' := by simpa [Radix.marks] using hmark
  rcases hmark' with rfl | rfl <;> simpa using hdigits

end Numeral

namespace Condition

open Text (trim)

theorem stringNumber_eq_nan_of_comma {s : String} (h : ',' ∈ s.toList) : stringNumber s = .nan := by
  by_contra hne
  have hmem : ',' ∈ trim s.toList := Text.mem_trim (by decide) h
  rcases (stringNumber_ne_nan_iff_reads rfl).1 hne with hnil | hdecimal | hinfinity | hhex
  · simp [hnil] at hmem
  · exact hdecimal.comma_notMem (fun _ hm => hm.comma_notMem) hmem
  · exact hinfinity.comma_notMem hmem
  · exact hhex.comma_notMem hmem

def boolText (b : Bool) : List Char := (if b then "true" else "false").toList

def objectText : List Char := "[object Object]".toList

mutual
/-- The text of a value as an item of an array; `numeral` says how numbers are written. -/
def itemText (numeral : Json.Number → List Char) : Json → List Char
  | .null => []
  | .bool b => boolText b
  | .number n => numeral n
  | .string s => s.toList
  | .array items => Text.join ',' (itemTexts numeral items)
  | .object _ => objectText

def itemTexts (numeral : Json.Number → List Char) : List Json → List (List Char)
  | [] => []
  | item :: items => itemText numeral item :: itemTexts numeral items
end

/-- The value is the number, or an array at some depth of which the number stands. The text of an
object does not show what it holds. -/
inductive Shows (n : Json.Number) : Json → Prop
  | number : Shows n (.number n)
  | item {item : Json} {items : List Json} : item ∈ items → Shows n item → Shows n (.array items)

variable {numeral : Json.Number → List Char}

theorem itemText_nil : itemText numeral (.array []) = [] := by
  rw [itemText, itemTexts, Text.join]

theorem itemText_singleton (v : Json) : itemText numeral (.array [v]) = itemText numeral v := by
  rw [itemText, itemTexts, itemTexts, Text.join]

theorem stringNumber_nil : stringNumber (String.ofList []) = .finite .zero := by decide +kernel

theorem stringNumber_itemText_of_two (v w : Json) (items : List Json) :
    stringNumber (String.ofList (itemText numeral (.array (v :: w :: items)))) = .nan := by
  apply stringNumber_eq_nan_of_comma
  rw [String.toList_ofList, itemText, itemTexts, itemTexts, Text.join]
  exact List.mem_append_right _ List.mem_cons_self

theorem toNumber_nil : toNumber (.array []) = .finite .zero := by rw [toNumber]

theorem toNumber_of_two (v w : Json) (items : List Json) :
    toNumber (.array (v :: w :: items)) = .nan := by
  rw [toNumber] <;> simp

/-- An array of one item counts as the number that the text of the item spells, if the numbers that
it shows are written so that they are read back. -/
theorem toNumber_singleton : (v : Json) →
    (∀ n, Shows n v → stringNumber (String.ofList (numeral n)) = n.value) →
    toNumber (.array [v]) = stringNumber (String.ofList (itemText numeral v))
  | .null, _ => by
    rw [itemText, stringNumber_nil, toNumber, toNumber]
    simp
  -- A truth value counts as a number outside of arrays only, which is what its text says, too.
  | .bool b, _ => by
    rw [itemText, toNumber]
    cases b <;> decide +kernel
  | .number n, h => by
    rw [itemText, h n .number, toNumber, toNumber]
    simp
  | .string s, _ => by
    rw [itemText, String.ofList_toList, toNumber, toNumber]
    simp
  | .object members, _ => by
    rw [itemText, toNumber, toNumber]
    · decide +kernel
    · simp
  | .array [], _ => by
    rw [itemText_nil, stringNumber_nil, toNumber, toNumber_nil]
    simp
  | .array [v], h => by
    have ih := toNumber_singleton v fun n hn => h n (.item List.mem_cons_self hn)
    rw [itemText_singleton, ← ih, toNumber]
    simp
  | .array (v :: w :: items), _ => by
    rw [stringNumber_itemText_of_two, toNumber, toNumber_of_two]
    simp

theorem toNumber_of_shows {items : List Json}
    (h : ∀ n, Shows n (.array items) → stringNumber (String.ofList (numeral n)) = n.value) :
    toNumber (.array items) = stringNumber (String.ofList (itemText numeral (.array items))) := by
  cases items with
  | nil => rw [toNumber_nil, itemText_nil, stringNumber_nil]
  | cons v items =>
    cases items with
    | nil =>
      rw [itemText_singleton]
      exact toNumber_singleton v fun n hn => h n (.item List.mem_cons_self hn)
    | cons w items => rw [toNumber_of_two, stringNumber_itemText_of_two]

def nested (v : Json) : (depth : Nat) → Json
  | 0 => v
  | depth + 1 => .array [nested v depth]

theorem toNumber_nested (n : Json.Number) (depth : Nat) :
    toNumber (nested (.number n) depth) = n.value := by
  induction depth with
  | zero => rw [nested, toNumber]
  | succ depth ih =>
    rw [nested, toNumber, ih]
    cases depth <;> simp [nested]

/-- An array that shows no number counts as the number that its text spells, however numbers are
written. A number within arrays of one item counts as itself. -/
theorem toNumber_array :
    (∀ items, (∀ n, ¬ Shows n (.array items)) → ∀ numeral : Json.Number → List Char,
      toNumber (.array items) = stringNumber (String.ofList (itemText numeral (.array items)))) ∧
    ∀ n depth, toNumber (nested (.number n) (depth + 1)) = n.value :=
  ⟨fun _ hnone _ => toNumber_of_shows fun n hn => absurd hn (hnone n),
    fun n depth => toNumber_nested n (depth + 1)⟩

theorem wrapped_toNumber :
    (∀ n, ¬ Shows n (.array [.array [.string " 0x1F "]])) ∧
    toNumber (.array [.array [.string " 0x1F "]]) = Binary64.ofInt 31 ∧
    toNumber (.array [.array [.array [.number (.int 31)]]]) = Binary64.ofInt 31 := by
  have hnone : ∀ n, ¬ Shows n (.array [.array [.string " 0x1F "]]) := by
    rintro n (_ | ⟨houter, hshows⟩)
    obtain rfl := List.mem_singleton.1 houter
    cases hshows with
    | item hinner hshows =>
      obtain rfl := List.mem_singleton.1 hinner
      cases hshows
  obtain ⟨htext, hnested⟩ := toNumber_array
  have hstring := htext _ hnone fun _ => []
  rw [itemText_singleton, itemText_singleton, itemText, String.ofList_toList] at hstring
  exact ⟨hnone, hstring.trans (by decide +kernel), hnested (.int 31) 2⟩

end Condition

end WorkflowGraph
