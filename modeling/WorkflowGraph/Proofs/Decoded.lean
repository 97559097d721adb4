import WorkflowGraph.Json.Reader
import WorkflowGraph.Proofs.Readback
set_option autoImplicit false

namespace WorkflowGraph

namespace Decoding

variable {α β : Type} {m : Decoding α} {P Q : α → Prop} {R : β → Prop}

def Yields (m : Decoding α) (P : α → Prop) : Prop :=
  ∀ left a rest, m.run left = .ok (a, rest) → P a

theorem Yields.pure {a : α} (h : P a) : Yields (Pure.pure a) P := by
  intro left b rest hrun
  cases hrun
  exact h

theorem Yields.throw (fault : Fault) : Yields (throw fault : Decoding α) P :=
  fun _ _ _ hrun => nomatch hrun

theorem Yields.of_forall (h : ∀ a, P a) : m.Yields P := fun _ a _ _ => h a

theorem Yields.any (m : Decoding α) : m.Yields fun _ => True := .of_forall fun _ => trivial

theorem Yields.mono (hm : m.Yields P) (h : ∀ a, P a → Q a) : m.Yields Q :=
  fun left a rest hrun => h a (hm left a rest hrun)

theorem Yields.bind {k : α → Decoding β} (hm : m.Yields P) (hk : ∀ a, P a → (k a).Yields R) :
    Yields (m >>= k) R := by
  intro left b rest hrun
  rw [StateT.run_bind] at hrun
  cases hfirst : m.run left with
  | error fault => simp [hfirst, Bind.bind, Except.bind] at hrun
  | ok result =>
    obtain ⟨a, between⟩ := result
    rw [hfirst] at hrun
    exact hk a (hm left a between hfirst) between b rest hrun

theorem Yields.then {k : α → Decoding β} (hk : ∀ a, (k a).Yields R) : Yields (m >>= k) R :=
  (Yields.any m).bind fun a _ => hk a

theorem Yields.and {P' : α → Prop} (hm : m.Yields P) (hm' : m.Yields P') :
    m.Yields fun a => P a ∧ P' a :=
  fun left a rest hrun => ⟨hm left a rest hrun, hm' left a rest hrun⟩

theorem Yields.map {f : α → β} (hm : m.Yields P) (h : ∀ a, P a → R (f a)) : Yields (f <$> m) R := by
  rw [map_eq_pure_bind]
  exact hm.bind fun a ha => .pure (h a ha)

theorem Yields.lift {result : Except Fault α} (h : ∀ a, result = .ok a → P a) :
    Yields (liftM result) P := by
  intro left a rest hrun
  cases result with
  | error fault => exact nomatch hrun
  | ok _ =>
    cases hrun
    exact h a rfl

theorem Yields.of_run' (hm : m.Yields P) {left : Nat} {a : α} (h : m.run' left = .ok a) : P a := by
  rw [StateT.run'] at h
  cases hrun : m left with
  | error fault => simp [hrun, Functor.map, Except.map] at h
  | ok result =>
    obtain ⟨b, rest⟩ := result
    rw [hrun] at h
    cases h
    exact hm left b rest hrun

end Decoding

open Decoding

namespace Source

theorem ordered_ofAtom (a : Atom) : (ofAtom a).Ordered := by
  cases a <;> simp [ofAtom, Json.Ordered]

theorem ordered_ofMembers {members : List (String × Json)} (h : Json.OrderedMembers members) :
    (Json.ofMembers members).Ordered :=
  Fields.ordered_toJson_iff.2 (Fields.ordered_empty.foldl_insert (Json.orderedMembers_iff.1 h))

mutual
theorem yields_value : (s : Source) → s.value.Yields Json.Ordered
  | .atom a => by
    rw [value]
    exact .pure (ordered_ofAtom a)
  | .scalar s => by
    rw [value]
    split
    · exact .pure (ordered_ofAtom _)
    · exact .throw _
  | .sequence items ending => by
    rw [value]
    exact (yields_itemValues items).bind fun _ h => .then fun _ => .pure h
  | .mapping members ending => by
    rw [value]
    exact (yields_memberValues members).bind fun _ h => .then fun _ => .pure (ordered_ofMembers h)
  | .alias node => by
    rw [value]
    exact .then fun _ => yields_value (node ())
  | .tagged _ => .throw _
  | .skippable _ => .throw _
  | .misplaced _ => .throw _
  | .broken _ _ => .throw _

theorem yields_itemValues : (items : List Source) → (itemValues items).Yields Json.OrderedItems
  | [] => .pure trivial
  | item :: items => by
    rw [itemValues]
    exact (yields_value item).bind fun _ h =>
      (yields_itemValues items).bind fun _ hs => .pure ⟨h, hs⟩

theorem yields_memberValues : (members : List (Source × Source)) →
    (memberValues members).Yields Json.OrderedMembers
  | [] => .pure trivial
  | (key, item) :: members => by
    rw [memberValues]
    exact .then fun _ => (yields_value item).bind fun _ h =>
      (yields_memberValues members).bind fun _ hs => .pure ⟨h, hs⟩
end

theorem yields_fields (s : Source) : s.fields.Yields Fields.Ordered := by
  have hmembers : ∀ members : List (String × Json), Json.OrderedMembers members →
      (Fields.ofList members).Ordered := fun members h =>
    Fields.ordered_toJson_iff.1 (ordered_ofMembers h)
  rw [Source.fields]
  refine .then fun t => ?_
  split
  · exact (yields_memberValues _).bind fun _ h => .then fun _ => .pure (hmembers _ h)
  · exact (yields_memberValues _).bind fun _ h => .pure (hmembers _ h)
  · split
    · exact .pure Fields.ordered_empty
    · exact .throw _
  · exact .throw _

def children : Source → List Source
  | .sequence items _ => items
  | .mapping members _ => members.map (·.2)
  | .tagged inner => inner.children
  | _ => []

section Parts

variable {α : Type} {read : Source → Decoding α} {P : α → Prop} {Q : Source → Prop}

theorem yields_readAll (hread : ∀ s, Q s → (read s).Yields P) {items : List Source}
    (hitems : ∀ s ∈ items, Q s) : (readAll read items).Yields fun xs => ∀ x ∈ xs, P x := by
  induction items with
  | nil => exact .pure fun _ h => nomatch h
  | cons item items ih =>
    obtain ⟨hitem, hitems⟩ := List.forall_mem_cons.1 hitems
    rw [readAll]
    exact (hread item hitem).bind fun x hx => (ih hitems).bind fun xs hxs =>
      .pure (List.forall_mem_cons.2 ⟨hx, hxs⟩)

theorem yields_listOf (hread : ∀ s, Q s → (read s).Yields P) {s : Source}
    (hs : s.follow.Yields fun t => ∀ child ∈ t.children, Q child) :
    (s.listOf read).Yields fun xs => ∀ x ∈ xs, P x := by
  rw [listOf]
  refine hs.bind fun t ht => ?_
  split
  · exact (yields_readAll hread ht).bind fun _ hxs => .then fun _ => .pure hxs
  · exact yields_readAll hread ht
  · split
    · exact .pure (List.forall_mem_nil P)
    · exact .throw _
  · exact .throw _

theorem yields_some {m : Decoding α} (h : m.Yields P) :
    Yields (do return some (← m)) fun o => ∀ a, o = some a → P a :=
  h.bind fun _ ha => .pure fun _ hb => Option.some.inj hb ▸ ha

theorem yields_optional (hread : ∀ s, Q s → (read s).Yields P) {s : Source}
    (hs : s.follow.Yields Q) : (s.optional read).Yields fun o => ∀ a, o = some a → P a := by
  rw [optional]
  refine hs.bind fun t ht => ?_
  split
  · exact .pure fun _ h => nomatch h
  · split
    · exact .pure fun _ h => nomatch h
    · exact yields_some (hread _ ht)
    · exact .throw _
  · exact yields_some (hread _ ht)

end Parts

mutual
/-- A source as a JSON text spells it: every atom has a value of its own, and nothing has yet to be
given a kind or to be looked up. -/
def IsJson : Source → Prop
  | .atom .nonFinite => False
  | .sequence items _ => AreJson items
  | .mapping members _ => AreJsonMembers members
  | .scalar _ | .tagged _ | .alias _ => False
  | _ => True

def AreJson : List Source → Prop
  | [] => True
  | item :: items => IsJson item ∧ AreJson items

def AreJsonMembers : List (Source × Source) → Prop
  | [] => True
  | (_, item) :: members => IsJson item ∧ AreJsonMembers members
end

theorem areJson_iff {items : List Source} : AreJson items ↔ ∀ s ∈ items, s.IsJson := by
  induction items with
  | nil => simp [AreJson]
  | cons item items ih => rw [AreJson, ih, List.forall_mem_cons]

theorem areJsonMembers_iff {members : List (Source × Source)} :
    AreJsonMembers members ↔ ∀ e ∈ members, e.2.IsJson := by
  induction members with
  | nil => simp [AreJsonMembers]
  | cons e members ih => rw [AreJsonMembers, ih, List.forall_mem_cons]

namespace IsJson

variable {s : Source}

theorem children (h : s.IsJson) : ∀ child ∈ s.children, child.IsJson := by
  cases s with
  | sequence items ending => exact areJson_iff.1 h
  | mapping members ending =>
    intro child hchild
    obtain ⟨e, he, rfl⟩ := List.mem_map.1 hchild
    exact areJsonMembers_iff.1 h e he
  | tagged inner => exact h.elim
  | _ => exact fun _ h => nomatch h

theorem follow (h : s.IsJson) : s.follow = pure s := by
  cases s <;> first | rfl | exact h.elim

theorem yields_follow (h : s.IsJson) : s.follow.Yields IsJson := by
  rw [h.follow]
  exact .pure h

theorem yields_children (h : s.IsJson) :
    s.follow.Yields fun t => ∀ child ∈ t.children, child.IsJson := by
  rw [h.follow]
  exact .pure h.children

end IsJson

mutual
theorem isJson_ofJson : (v : Json) → (ofJson v).IsJson
  | .null => trivial
  | .bool _ => trivial
  | .number _ => trivial
  | .string _ => trivial
  | .array items => areJson_ofItems items
  | .object members => areJsonMembers_ofMembers members

theorem areJson_ofItems : (items : List Json) → AreJson (ofItems items)
  | [] => trivial
  | v :: items => ⟨isJson_ofJson v, areJson_ofItems items⟩

theorem areJsonMembers_ofMembers : (members : List (String × Json)) →
    AreJsonMembers (ofMembers members)
  | [] => trivial
  | (_, v) :: members => ⟨isJson_ofJson v, areJsonMembers_ofMembers members⟩
end

/-- Only the word for null is read as null. In other formats so is a number that is infinite. -/
theorem yields_value_ne_null {s : Source} (h : s.IsJson) (hs : s ≠ .atom .null) :
    s.value.Yields (· ≠ .null) := by
  cases s with
  | atom a =>
    rw [value]
    cases a with
    | null => exact absurd rfl hs
    | nonFinite => exact h.elim
    | _ => exact .pure nofun
  | sequence items ending =>
    rw [value]
    exact .then fun _ => .then fun _ => .pure nofun
  | mapping members ending =>
    rw [value]
    exact .then fun _ => .then fun _ => .pure nofun
  | skippable inner => exact .throw _
  | misplaced inner => exact .throw _
  | broken onRead onSkip => exact .throw _
  | _ => exact h.elim

theorem yields_optional_value {s : Source} (h : s.IsJson) :
    (s.optional value).Yields fun o => ∀ v, o = some v → v ≠ .null ∧ v.Ordered := by
  rw [optional, h.follow, pure_bind]
  split
  · exact .pure fun _ h => nomatch h
  · exact h.elim
  · rename_i hnull _
    exact yields_some ((yields_value_ne_null h hnull).and (yields_value s))

end Source

namespace RecordReader

variable {α β : Type} {r : RecordReader α} {P : α → Prop} {Q : Source → Prop}

theorem yields_gather {seen : List (String × Source)} (hseen : ∀ e ∈ seen, Q e.2)
    {members : List (Source × Source)} (hmembers : ∀ e ∈ members, Q e.2) :
    (r.gather seen members).Yields fun gathered => ∀ e ∈ gathered, Q e.2 := by
  induction members generalizing seen with
  | nil => exact .pure hseen
  | cons e members ih =>
    obtain ⟨key, item⟩ := e
    obtain ⟨hitem, hmembers⟩ := List.forall_mem_cons.1 hmembers
    rw [gather]
    refine .then fun part => ?_
    split
    · exact .then fun _ => ih hseen hmembers
    · split
      · exact .throw _
      · exact .then fun _ => ih (List.forall_mem_cons.2 ⟨hitem, hseen⟩) hmembers

theorem yields_gatherItems {parts : List (String × (Source → Decoding Unit))} {items : List Source}
    (hitems : ∀ s ∈ items, Q s) :
    (gatherItems parts items).Yields fun gathered => ∀ e ∈ gathered, Q e.2 := by
  induction parts generalizing items with
  | nil => exact .pure fun _ h => nomatch h
  | cons part parts ih =>
    cases items with
    | nil => exact .pure fun _ h => nomatch h
    | cons item items =>
      obtain ⟨hitem, hitems⟩ := List.forall_mem_cons.1 hitems
      rw [gatherItems]
      exact .then fun _ => (ih hitems).bind fun _ hrest =>
        .pure (List.forall_mem_cons.2 ⟨hitem, hrest⟩)

section Build

variable (hbuild : ∀ find, (∀ name s, find name = some s → Q s) → (r.build find).Yields P)

include hbuild

theorem yields_finish (left : Nat) {seen : List (String × Source)} (hseen : ∀ e ∈ seen, Q e.2) :
    (r.finish left seen).Yields P := by
  have hfind : ∀ name s, (seen.find? (·.1 = name)).map (·.2) = some s → Q s := by
    intro name s hs
    obtain ⟨e, he, rfl⟩ := Option.map_eq_some_iff.1 hs
    exact hseen e (List.mem_of_find?_eq_some he)
  exact .lift fun a ha => (hbuild _ hfind).of_run' ha

theorem yields_ofMembers {members : List (Source × Source)} (hmembers : ∀ e ∈ members, Q e.2)
    (ending : Ending) : (r.ofMembers members ending).Yields P := by
  rw [RecordReader.ofMembers]
  exact .then fun left => (yields_gather (by simp) hmembers).bind fun _ hseen =>
    .then fun _ => yields_finish hbuild left hseen

theorem yields_ofSequence {items : List Source} (hitems : ∀ s ∈ items, Q s) (dialect : Dialect)
    (ending : Ending) : (r.ofSequence dialect items ending).Yields P := by
  rw [RecordReader.ofSequence]
  refine .then fun left => (yields_gatherItems hitems).bind fun seen hseen => ?_
  have hrest : Yields (do
      let a ← r.finish left seen
      if r.parts.length < items.length then
        throw (if dialect = .streamed then .malformed else .mismatch)
      else
        ending.check
        return a) P := by
    refine (yields_finish hbuild left hseen).bind fun a ha => ?_
    split
    · exact .throw _
    · exact .then fun _ => .pure ha
  dsimp only
  split
  · exact .then fun _ => hrest
  · exact hrest

/-- A record has what it has from its parts, whichever of them are there. -/
theorem yields_read {s : Source} (hs : s.follow.Yields fun t => ∀ child ∈ t.children, Q child)
    (dialect : Dialect) : (r.read dialect s).Yields P := by
  rw [RecordReader.read]
  refine hs.bind fun t ht => ?_
  split
  · exact yields_ofMembers hbuild (fun e he => ht e.2 (List.mem_map.2 ⟨e, he, rfl⟩)) _
  · split
    · exact .throw _
    · exact yields_ofSequence hbuild ht dialect _
  · exact yields_ofMembers hbuild (fun e he => ht e.2 (List.mem_map.2 ⟨e, he, rfl⟩)) _
  · split
    · exact yields_finish hbuild 0 (by simp)
    · exact .throw _
  · exact .throw _

end Build

section Part

variable {f : RecordReader (α → β)} {name : String} {read : Source → Decoding α}
  {absent : Decoding α} {find : String → Option Source} {A : α → Prop} {R : β → Prop}

theorem yields_andPart (hf : (f.build find).Yields fun g => ∀ a, A a → R (g a))
    (hread : ∀ s, find name = some s → (read s).Yields A) (habsent : absent.Yields A) :
    ((f.andPart name read absent).build find).Yields R := by
  refine hf.bind fun g hg => ?_
  dsimp only
  split
  · rename_i s hs
    exact (hread s hs).bind fun a ha => .pure (hg a ha)
  · exact habsent.bind fun a ha => .pure (hg a ha)

theorem yields_anyPart (hf : (f.build find).Yields fun g => ∀ a, R (g a)) :
    ((f.andPart name read absent).build find).Yields R :=
  yields_andPart (A := fun _ => True) (hf.mono fun _ hg a _ => hg a) (fun _ _ => .any _) (.any _)

end Part

end RecordReader

namespace Json.Reader

theorem isJson_string (r : Reading) (cs : List Char) : (string r cs).1.IsJson := by
  fun_induction string r cs with
  | case2 r rest =>
    rw [Reading.finish]
    split <;> trivial
  | _ => trivial

theorem isJson_finishNumber (n : Numeral) (whole : Bool) (rest : List Char) :
    (finishNumber n whole rest).1.IsJson := by
  rw [finishNumber]
  split <;> trivial

theorem isJson_exponent (n : Numeral) (negative : Bool) (cs : List Char) :
    (exponent n negative cs).1.IsJson := by
  fun_cases exponent n negative cs with
  | case1 => exact isJson_finishNumber _ _ _
  | _ => trivial

theorem isJson_optionalExponent (n : Numeral) (whole : Bool) (cs : List Char) :
    (optionalExponent n whole cs).1.IsJson := by
  unfold optionalExponent
  split
  · split
    · split <;> exact isJson_exponent _ _ _
    · exact isJson_finishNumber _ _ _
  · exact isJson_finishNumber _ _ _

theorem isJson_afterWhole (negative : Bool) (digits cs : List Char) :
    (afterWhole negative digits cs).1.IsJson := by
  unfold afterWhole
  split
  · dsimp only
    split
    · trivial
    · trivial
    · exact isJson_optionalExponent _ _ _
  · exact isJson_optionalExponent _ _ _

theorem isJson_number (negative : Bool) (cs : List Char) : (number negative cs).1.IsJson := by
  unfold number
  split
  · trivial
  · split
    · trivial
    · exact isJson_afterWhole _ _ _
  · split
    · exact isJson_afterWhole _ _ _
    · trivial

theorem isJson_keyword {a : Atom} (ha : (Source.atom a).IsJson) (word cs : List Char) :
    (keyword a word cs).1.IsJson := by
  fun_induction keyword a word cs with
  | case1 => exact ha
  | case3 _ _ _ ih => exact ih
  | _ => trivial

theorem isJson_atDepth {s : Source} (h : s.IsJson) (depth : Nat) : (atDepth depth s).IsJson := by
  rw [atDepth]
  split
  · exact h
  · trivial

mutual
theorem isJson_value : (fuel depth : Nat) → (cs : List Char) → (value fuel depth cs).1.IsJson
  | 0, _, _ => by
    rw [value]
    trivial
  | fuel + 1, depth, cs => by
    rw [value]
    split
    · trivial
    · exact isJson_keyword (a := .null) trivial _ _
    · exact isJson_keyword (a := .bool true) trivial _ _
    · exact isJson_keyword (a := .bool false) trivial _ _
    · exact isJson_string _ _
    · exact isJson_number _ _
    · exact isJson_atDepth (s := .sequence _ _) (areJson_items fuel _ _ _) depth
    · exact isJson_atDepth (s := .mapping _ _) (areJsonMembers_members fuel _ _ _) depth
    · split
      · exact isJson_number _ _
      · trivial

theorem areJson_items : (fuel depth : Nat) → (first : Bool) → (cs : List Char) →
    Source.AreJson (items fuel depth first cs).1
  | 0, _, _, _ => by
    rw [items]
    trivial
  | fuel + 1, depth, first, cs => by
    unfold items
    split
    · trivial
    · trivial
    · exact areJson_item fuel depth _
    · exact areJson_item fuel depth _
    · trivial

theorem areJson_item : (fuel depth : Nat) → (cs : List Char) →
    Source.AreJson (item fuel depth cs).1
  | 0, _, _ => by
    rw [item]
    trivial
  | fuel + 1, depth, cs => by
    have hvalue := isJson_value fuel depth cs
    rw [item]
    split
    · rename_i s heq
      rw [heq] at hvalue
      exact ⟨hvalue, trivial⟩
    · rename_i s rest heq
      rw [heq] at hvalue
      exact ⟨hvalue, areJson_items fuel depth false rest⟩

theorem areJsonMembers_members : (fuel depth : Nat) → (first : Bool) → (cs : List Char) →
    Source.AreJsonMembers (members fuel depth first cs).1
  | 0, _, _, _ => by
    rw [members]
    trivial
  | fuel + 1, depth, first, cs => by
    unfold members
    split
    · trivial
    · trivial
    · exact areJsonMembers_member fuel depth _
    · exact areJsonMembers_member fuel depth _
    · trivial

theorem areJsonMembers_member : (fuel depth : Nat) → (cs : List Char) →
    Source.AreJsonMembers (member fuel depth cs).1
  | 0, _, _ => by
    rw [member]
    trivial
  | fuel + 1, depth, cs => by
    rw [member]
    dsimp only
    split
    · exact ⟨trivial, trivial⟩
    · split
      · exact ⟨trivial, trivial⟩
      · split
        · exact ⟨trivial, trivial⟩
        · rename_i rest _
          have hvalue := isJson_value fuel depth rest
          split
          · rename_i s heq
            rw [heq] at hvalue
            exact ⟨hvalue, trivial⟩
          · rename_i s after heq
            rw [heq] at hvalue
            exact ⟨hvalue, areJsonMembers_members fuel depth false after⟩
        · exact ⟨trivial, trivial⟩
    · exact ⟨trivial, trivial⟩
end

end Json.Reader

/-- What is read from a JSON text is read from the source that the text spells. -/
theorem Json.exists_isJson_of_decode {α : Type} {read : Source → Decoding α} {text : String} {a : α}
    (h : Json.decode read text = .ok a) : ∃ s : Source, s.IsJson ∧ (read s).run' 0 = .ok a := by
  have hsource := Json.Reader.isJson_value (3 * text.toList.length + 3) 0 text.toList
  unfold Json.decode at h
  dsimp only at h
  generalize Json.Reader.value (3 * text.toList.length + 3) 0 text.toList = piece at h hsource
  obtain ⟨source, rest⟩ := piece
  refine ⟨source, hsource, ?_⟩
  cases hread : (read source).run' 0 with
  | error fault =>
    rw [hread] at h
    exact nomatch h
  | ok b =>
    rw [hread] at h
    cases rest with
    | none => exact nomatch h
    | some rest =>
      dsimp only [bind, Except.bind] at h
      split at h
      · exact h
      · exact nomatch h

end WorkflowGraph
