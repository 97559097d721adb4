import WorkflowGraph.Source.Record
set_option autoImplicit false

namespace WorkflowGraph

namespace Json

mutual
/-- The members of every object in the value stand in ascending order of their names, one for each
name. -/
def Ordered : Json → Prop
  | .array items => OrderedItems items
  | .object members => members.Pairwise (fun a b => a.1 < b.1) ∧ OrderedMembers members
  | _ => True

def OrderedItems : List Json → Prop
  | [] => True
  | v :: items => Ordered v ∧ OrderedItems items

def OrderedMembers : List (String × Json) → Prop
  | [] => True
  | (_, v) :: members => Ordered v ∧ OrderedMembers members
end

theorem orderedMembers_iff {members : List (String × Json)} :
    OrderedMembers members ↔ ∀ e ∈ members, e.2.Ordered := by
  induction members with
  | nil => simp [OrderedMembers]
  | cons e members ih => rw [OrderedMembers, ih, List.forall_mem_cons]

end Json

namespace Fields

def Ordered (fields : Fields) : Prop :=
  ∀ key value, fields.get? key = some value → value.Ordered

theorem orderedMembers_entries_iff {fields : Fields} :
    Json.OrderedMembers fields.entries ↔ fields.Ordered := by
  rw [Json.orderedMembers_iff]
  exact ⟨fun h key value hget => h _ (get?_eq_some_iff.1 hget),
    fun h e he => h e.1 e.2 (get?_eq_some_iff.2 he)⟩

theorem ordered_toJson_iff {fields : Fields} : fields.toJson.Ordered ↔ fields.Ordered := by
  rw [toJson, Json.Ordered, orderedMembers_entries_iff]
  exact and_iff_right fields.ascending

theorem ordered_empty : empty.Ordered := fun _ _ h => nomatch h

theorem Ordered.insert {fields : Fields} (h : fields.Ordered) (key : String) {value : Json}
    (hvalue : value.Ordered) : (fields.insert key value).Ordered := by
  intro k v hget
  rw [get?_insert] at hget
  split at hget
  · exact Option.some.inj hget ▸ hvalue
  · exact h k v hget

theorem Ordered.foldl_insert {fields : Fields} (h : fields.Ordered) {entries : List (String × Json)}
    (hentries : ∀ e ∈ entries, e.2.Ordered) :
    (entries.foldl (fun fields e => fields.insert e.1 e.2) fields).Ordered := by
  induction entries generalizing fields with
  | nil => exact h
  | cons e entries ih =>
    obtain ⟨he, hentries⟩ := List.forall_mem_cons.1 hentries
    exact ih (h.insert e.1 he) hentries

attribute [simp] find? find?_append get?_ofList

@[simp] theorem find?_reverse_toList {α : Type} (key name : String) (o : Option α)
    (write : α → Json) :
    find? key (o.map fun a => (name, write a)).toList.reverse =
      if name = key then o.map write else none := by
  cases o <;> simp

@[simp] theorem find?_reverse_toList_self (key name : String) (o : Option Json) :
    find? key (o.map fun value => (name, value)).toList.reverse =
      if name = key then o else none := by
  cases o <;> simp

end Fields

def Json.fields (v : Json) : Fields := (Fields.ofJson? v).getD {}

theorem Json.fields_ofMembers (members : List (String × Json)) :
    (Json.ofMembers members).fields = Fields.ofList members := Fields.ofList_entries _

theorem Json.toJson_fields_ofMembers (members : List (String × Json)) :
    (Json.ofMembers members).fields.toJson = Json.ofMembers members :=
  congrArg Fields.toJson (Json.fields_ofMembers members)

namespace Source

variable {α : Type}

mutual
theorem value_ofJson : (v : Json) → v.Ordered → (ofJson v).value = pure v
  | .null, _ => rfl
  | .bool _, _ => rfl
  | .number _, _ => rfl
  | .string _, _ => rfl
  | .array items, h => by
    rw [ofJson, value, itemValues_ofItems items h]
    rfl
  | .object members, h => by
    rw [ofJson, value, memberValues_ofMembers members h.2]
    exact congrArg (fun fields : Fields => (pure fields.toJson : Decoding Json))
      (Fields.ofList_entries ⟨members, h.1⟩)

theorem itemValues_ofItems : (items : List Json) → Json.OrderedItems items →
    itemValues (ofItems items) = pure items
  | [], _ => rfl
  | v :: items, h => by
    rw [ofItems, itemValues, value_ofJson v h.1, itemValues_ofItems items h.2]
    rfl

theorem memberValues_ofMembers : (members : List (String × Json)) → Json.OrderedMembers members →
    memberValues (ofMembers members) = pure members
  | [], _ => rfl
  | (key, v) :: members, h => by
    rw [ofMembers, memberValues, value_ofJson v h.1, memberValues_ofMembers members h.2]
    rfl
end

mutual
theorem hold_ofJson : (v : Json) → (ofJson v).hold = pure (ofJson v)
  | .null => rfl
  | .bool _ => rfl
  | .number _ => rfl
  | .string _ => rfl
  | .array items => by
    rw [ofJson, hold, holdItems_ofItems items]
    rfl
  | .object members => by
    rw [ofJson, hold, holdMembers_ofMembers members]
    rfl

theorem holdItems_ofItems : (items : List Json) → holdItems (ofItems items) = pure (ofItems items)
  | [] => rfl
  | v :: items => by
    rw [ofItems, holdItems, hold_ofJson v, holdItems_ofItems items]
    rfl

theorem holdMembers_ofMembers : (members : List (String × Json)) →
    holdMembers (ofMembers members) = pure (ofMembers members)
  | [] => rfl
  | (key, v) :: members => by
    rw [ofMembers, holdMembers, hold_ofJson v, holdMembers_ofMembers members]
    rfl
end

mutual
theorem skip_ofJson : (v : Json) → (ofJson v).skip = pure ()
  | .null => rfl
  | .bool _ => rfl
  | .number _ => rfl
  | .string _ => rfl
  | .array items => by
    rw [ofJson, skip, skipItems_ofItems items]
    rfl
  | .object members => by
    rw [ofJson, skip, skipMembers_ofMembers members]
    rfl

theorem skipItems_ofItems : (items : List Json) → skipItems (ofItems items) = pure ()
  | [] => rfl
  | v :: items => by
    rw [ofItems, skipItems, skip_ofJson v, skipItems_ofItems items]
    rfl

theorem skipMembers_ofMembers : (members : List (String × Json)) →
    skipMembers (ofMembers members) = pure ()
  | [] => rfl
  | (key, v) :: members => by
    rw [ofMembers, skipMembers, skip_ofJson v, skipMembers_ofMembers members]
    rfl
end

theorem follow_ofJson (v : Json) : (ofJson v).follow = pure (ofJson v) := by
  cases v <;> rfl

theorem text_ofJson (text : String) : (ofJson (.string text)).text = pure text := rfl

theorem flag_ofJson (b : Bool) : (ofJson (.bool b)).flag = pure b := rfl

theorem word64_ofJson (n : Nat) : (ofJson (.number (.int n))).word64 = pure n := rfl

theorem number_ofJson (n : Json.Number) : (ofJson (.number n)).number = pure n := rfl

theorem variant_ofJson (words : List (String × α)) (dialect : Dialect) (name : String) :
    (ofJson (.string name)).variant words dialect = word words name := rfl

theorem optional_ofJson (read : Source → Decoding α) {v : Json} (hv : v ≠ .null) :
    (ofJson v).optional read = some <$> read (ofJson v) := by
  cases v with
  | null => exact absurd rfl hv
  | _ => rfl

theorem readAll_ofItems {read : Source → Decoding α} {write : α → Json} {xs : List α}
    (h : ∀ x ∈ xs, read (ofJson (write x)) = pure x) :
    readAll read (ofItems (xs.map write)) = pure xs := by
  induction xs with
  | nil => rfl
  | cons x xs ih =>
    obtain ⟨hx, hxs⟩ := List.forall_mem_cons.1 h
    rw [List.map_cons, ofItems, readAll, hx, ih hxs]
    rfl

theorem listOf_ofJson {read : Source → Decoding α} {write : α → Json} {xs : List α}
    (h : ∀ x ∈ xs, read (ofJson (write x)) = pure x) :
    (ofJson (.array (xs.map write))).listOf read = pure xs := by
  rw [listOf, follow_ofJson, pure_bind, ofJson]
  dsimp only
  rw [readAll_ofItems h]
  rfl

theorem texts_ofJson (texts : List String) :
    (ofJson (.array (texts.map .string))).listOf text = pure texts :=
  listOf_ofJson fun text _ => text_ofJson text

theorem fields_ofJson {fields : Fields} (h : fields.Ordered) :
    (ofJson fields.toJson).fields = pure fields := by
  rw [Source.fields, follow_ofJson, pure_bind, Fields.toJson, ofJson]
  dsimp only
  rw [memberValues_ofMembers _ (Fields.orderedMembers_entries_iff.2 h)]
  exact congrArg (pure : Fields → Decoding Fields) (Fields.ofList_entries fields)

theorem readValue_of_ofJson {read : Source → Decoding α} {v : Json} {a : α}
    (h : read (ofJson v) = pure a) : readValue read v = .ok a := by
  rw [readValue, h]
  rfl

end Source

namespace RecordReader

variable {α β : Type} {find : String → Option Json} {name : String} {a : α}

/-- The members that `find` gives pass the checks, and the value is built from them. -/
structure Takes (r : RecordReader α) (find : String → Option Json) (a : α) : Prop where
  check : ∀ part ∈ r.parts, ∀ v, find part.1 = some v → part.2 (Source.ofJson v) = Pure.pure ()
  build : ∀ found : String → Option Source,
    (∀ part ∈ r.parts, found part.1 = (find part.1).map Source.ofJson) →
      r.build found = Pure.pure a

theorem takes_pure (a : α) (find : String → Option Json) : (RecordReader.pure a).Takes find a where
  check := by simp [RecordReader.pure]
  build _ _ := rfl

theorem Takes.map {r : RecordReader α} (h : r.Takes find a) (f : α → β) :
    (r.map f).Takes find (f a) where
  check := h.check
  build found hfound := (congrArg (f <$> ·) (h.build found hfound)).trans (map_pure f a)

theorem Takes.congr {r : RecordReader α} (h : r.Takes find a) {find' : String → Option Json}
    (hfind : ∀ part ∈ r.parts, find' part.1 = find part.1) : r.Takes find' a where
  check part hpart v hv := h.check part hpart v (hfind part hpart ▸ hv)
  build found hfound := h.build found fun part hpart => by rw [hfound part hpart, hfind part hpart]

section Part

variable {f : RecordReader (α → β)} {g : α → β} {read : Source → Decoding α} {absent : Decoding α}

theorem Takes.andPart (hf : f.Takes find g)
    (hread : ∀ v, find name = some v → read (Source.ofJson v) = Pure.pure a)
    (habsent : find name = none → absent = Pure.pure a) :
    (f.andPart name read absent).Takes find (g a) where
  check part hpart v hv := by
    rcases List.mem_append.1 hpart with hpart | hpart
    · exact hf.check part hpart v hv
    · obtain rfl := List.mem_singleton.1 hpart
      dsimp only
      rw [hread v hv]
      rfl
  build found hfound := by
    have hbuild := hf.build found fun part hpart => hfound part (List.mem_append_left _ hpart)
    have hname := hfound _ (List.mem_append_right _ List.mem_cons_self)
    dsimp only [RecordReader.andPart] at hname ⊢
    rw [hbuild, pure_bind, hname]
    cases hv : find name with
    | none => simp [habsent hv]
    | some v => simp [hread v hv]

theorem Takes.given {v : Json} (hf : f.Takes find g) (hfind : find name = some v)
    (hread : read (Source.ofJson v) = Pure.pure a) :
    (f.andPart name read absent).Takes find (g a) :=
  hf.andPart (fun _ hv => Option.some.inj (hfind.symm.trans hv) ▸ hread)
    fun hnone => absurd (hfind.symm.trans hnone) (Option.some_ne_none v)

theorem Takes.required {v : Json} (hf : f.Takes find g) (hfind : find name = some v)
    (hread : read (Source.ofJson v) = Pure.pure a) : (f.required name read).Takes find (g a) :=
  hf.given hfind hread

theorem Takes.withDefault {v : Json} {default : α} (hf : f.Takes find g)
    (hfind : find name = some v) (hread : read (Source.ofJson v) = Pure.pure a) :
    (f.withDefault name read default).Takes find (g a) :=
  hf.given hfind hread

end Part

theorem Takes.optional {f : RecordReader (Option α → β)} {g : Option α → β}
    {read : Source → Decoding α} {write : α → Json} {o : Option α} (hf : f.Takes find g)
    (hfind : find name = o.map write)
    (hwrite : ∀ a, o = some a → write a ≠ .null ∧ read (Source.ofJson (write a)) = Pure.pure a) :
    (f.withDefault name (Source.optional read) none).Takes find (g o) := by
  refine hf.andPart (fun v hv => ?_) fun hnone => ?_
  · obtain ⟨a, rfl, rfl⟩ := Option.map_eq_some_iff.1 (hfind.symm.trans hv)
    obtain ⟨hnull, hread⟩ := hwrite a rfl
    rw [Source.optional_ofJson read hnull, hread, map_pure]
  · rw [Option.map_eq_none_iff.1 (hfind.symm.trans hnone)]

variable {r : RecordReader α}

section Gather

theorem partOf_string (r : RecordReader α) (key : String) :
    r.partOf (.atom (.string key)) = Pure.pure (r.parts.find? (·.1 = key)) := rfl

variable {key : String} {v : Json} {seen : List (String × Source)}
  {members : List (Source × Source)}

theorem gather_unknown (hpart : r.parts.find? (·.1 = key) = none) :
    r.gather seen ((.atom (.string key), Source.ofJson v) :: members) = r.gather seen members := by
  rw [gather, partOf_string, hpart, pure_bind]
  dsimp only
  rw [Source.skip_ofJson, pure_bind]

theorem gather_known {check : Source → Decoding Unit}
    (hpart : r.parts.find? (·.1 = key) = some (key, check)) (hnew : ∀ s ∈ seen, s.1 ≠ key)
    (hcheck : check (Source.ofJson v) = Pure.pure ()) :
    r.gather seen ((.atom (.string key), Source.ofJson v) :: members) =
      r.gather ((key, Source.ofJson v) :: seen) members := by
  have hseen : ¬ seen.any (·.1 = key) := fun hany => by
    obtain ⟨s, hs, heq⟩ := List.any_eq_true.1 hany
    exact hnew s hs (of_decide_eq_true heq)
  rw [gather, partOf_string, hpart, pure_bind]
  dsimp only
  rw [if_neg hseen, hcheck, pure_bind]

/-- Members with distinct names are gathered by their names. -/
theorem exists_gather_ofMembers {entries : List (String × Json)}
    (hnodup : (entries.map (·.1)).Nodup)
    (hcheck : ∀ part ∈ r.parts, ∀ v, Fields.find? part.1 entries = some v →
      part.2 (Source.ofJson v) = Pure.pure ())
    (hseen : ∀ e ∈ entries, ∀ s ∈ seen, s.1 ≠ e.1) :
    ∃ gathered, r.gather seen (Source.ofMembers entries) = Pure.pure gathered ∧
      ∀ part ∈ r.parts, (gathered.find? (·.1 = part.1)).map (·.2) =
        ((Fields.find? part.1 entries).map Source.ofJson).or
          ((seen.find? (·.1 = part.1)).map (·.2)) := by
  induction entries generalizing seen with
  | nil => exact ⟨seen, rfl, fun part _ => rfl⟩
  | cons e entries ih =>
    obtain ⟨key, v⟩ := e
    obtain ⟨hkey, hrest⟩ := List.nodup_cons.1 hnodup
    obtain ⟨hseenKey, hseenRest⟩ := List.forall_mem_cons.1 hseen
    have habsent := Fields.find?_eq_none_of_notMem hkey
    have htail : ∀ part ∈ r.parts, ∀ w, Fields.find? part.1 entries = some w →
        part.2 (Source.ofJson w) = Pure.pure () := by
      intro part hpart w hw
      refine hcheck part hpart w ?_
      rw [Fields.find?, if_neg, hw]
      rintro rfl
      simp [habsent] at hw
    rw [Source.ofMembers]
    cases hpart : r.parts.find? (·.1 = key) with
    | none =>
      obtain ⟨gathered, hgather, hfind⟩ := ih hrest htail hseenRest
      refine ⟨gathered, (gather_unknown hpart).trans hgather, fun part hmem => ?_⟩
      have hne : key ≠ part.1 := fun heq => by
        simpa [heq] using List.find?_eq_none.1 hpart part hmem
      rw [hfind part hmem, Fields.find?, if_neg hne]
    | some known =>
      obtain ⟨name, check⟩ := known
      obtain rfl : name = key := by simpa using List.find?_some hpart
      have hv : check (Source.ofJson v) = Pure.pure () :=
        hcheck _ (List.mem_of_find?_eq_some hpart) v (by rw [Fields.find?, if_pos rfl])
      have hseen' : ∀ e ∈ entries, ∀ s ∈ (name, Source.ofJson v) :: seen, s.1 ≠ e.1 := by
        intro e he s hs
        rcases List.mem_cons.1 hs with rfl | hs
        · exact fun heq => hkey (List.mem_map.2 ⟨e, he, heq.symm⟩)
        · exact hseenRest e he s hs
      obtain ⟨gathered, hgather, hfind⟩ := ih hrest htail hseen'
      refine ⟨gathered, (gather_known hpart hseenKey hv).trans hgather, fun part hmem => ?_⟩
      rw [hfind part hmem, Fields.find?]
      -- The name does not come again behind, so the member just gathered is the one that counts.
      by_cases heq : name = part.1
      · simp [← heq, habsent]
      · simp [heq]

end Gather

theorem Takes.ofMembers {entries : List (String × Json)} (hnodup : (entries.map (·.1)).Nodup)
    (h : r.Takes (Fields.find? · entries) a) :
    r.ofMembers (Source.ofMembers entries) .closed = Pure.pure a := by
  have hseen : ∀ e ∈ entries, ∀ s ∈ ([] : List (String × Source)), s.1 ≠ e.1 := by simp
  obtain ⟨gathered, hgather, hfind⟩ := exists_gather_ofMembers hnodup h.check hseen
  have hbuild := h.build (fun name => (gathered.find? (·.1 = name)).map (·.2)) fun part hpart => by
    simpa using hfind part hpart
  funext left
  rw [RecordReader.ofMembers, hgather]
  simp only [pure_bind, Ending.check, finish, hbuild]
  rfl

/-- A record is read from every object that has its parts among its members. -/
theorem Takes.read_toJson {fields : Fields} (h : r.Takes fields.get? a) (dialect : Dialect) :
    r.read dialect (Source.ofJson fields.toJson) = Pure.pure a := by
  rw [RecordReader.read, Source.follow_ofJson, pure_bind, Fields.toJson, Source.ofJson]
  exact h.ofMembers (Fields.nodup_names fields.ascending)

end RecordReader

end WorkflowGraph
