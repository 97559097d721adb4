import WorkflowGraph.Json.Basic
set_option autoImplicit false

namespace WorkflowGraph

/-- Named values in ascending order of their names, which is the order of the code points. -/
structure Fields where
  entries : List (String × Json)
  ascending : entries.Pairwise (fun a b => a.1 < b.1)

namespace Fields

def empty : Fields := ⟨[], .nil⟩

instance : EmptyCollection Fields := ⟨empty⟩

instance : Inhabited Fields := ⟨empty⟩

def place (key : String) (value : Json) : List (String × Json) → List (String × Json)
  | [] => [(key, value)]
  | (k, v) :: rest =>
    if key < k then (key, value) :: (k, v) :: rest
    else if key = k then (key, value) :: rest
    else (k, v) :: place key value rest

theorem mem_place {key : String} {value : Json} {entries : List (String × Json)}
    {e : String × Json} (h : e ∈ place key value entries) : e = (key, value) ∨ e ∈ entries := by
  induction entries with
  | nil => simpa [place] using h
  | cons head rest ih =>
    rw [place] at h
    split at h
    · simpa using h
    · split at h
      · rcases List.mem_cons.1 h with h | h
        · exact .inl h
        · exact .inr (List.mem_cons_of_mem _ h)
      · rcases List.mem_cons.1 h with h | h
        · exact .inr (h ▸ List.mem_cons_self)
        · exact (ih h).imp_right (List.mem_cons_of_mem _)

theorem pairwise_place (key : String) (value : Json) {entries : List (String × Json)}
    (h : entries.Pairwise (fun a b => a.1 < b.1)) :
    (place key value entries).Pairwise (fun a b => a.1 < b.1) := by
  induction entries with
  | nil => simp [place]
  | cons head rest ih =>
    obtain ⟨hhead, hrest⟩ := List.pairwise_cons.1 h
    rw [place]
    split
    · rename_i hlt
      refine List.pairwise_cons.2 ⟨fun e he => ?_, h⟩
      rcases List.mem_cons.1 he with rfl | he
      · exact hlt
      · exact String.lt_trans hlt (hhead e he)
    · split
      · rename_i heq
        exact List.pairwise_cons.2 ⟨fun e he => heq ▸ hhead e he, hrest⟩
      · rename_i hlt hne
        refine List.pairwise_cons.2 ⟨fun e he => ?_, ih hrest⟩
        rcases mem_place he with rfl | he
        · exact Std.not_le.1 fun hle => hne (String.le_antisymm hle (Std.not_lt.1 hlt))
        · exact hhead e he

def insert (fields : Fields) (key : String) (value : Json) : Fields :=
  ⟨place key value fields.entries, pairwise_place key value fields.ascending⟩

/-- Of several values with one name the last stays. -/
def ofList (entries : List (String × Json)) : Fields :=
  entries.foldl (fun fields e => fields.insert e.1 e.2) empty

def find? (key : String) : List (String × Json) → Option Json
  | [] => none
  | (k, v) :: rest => if k = key then some v else find? key rest

def get? (fields : Fields) (key : String) : Option Json := find? key fields.entries

def contains (fields : Fields) (key : String) : Bool := (fields.get? key).isSome

def size (fields : Fields) : Nat := fields.entries.length

def isEmpty (fields : Fields) : Bool := fields.entries.isEmpty

def keys (fields : Fields) : List String := fields.entries.map (·.1)

def toJson (fields : Fields) : Json := .object fields.entries

def ofJson? : Json → Option Fields
  | .object members => some (ofList members)
  | _ => none

def same (a b : Fields) : Bool := Json.sameMembers a.entries b.entries

theorem find?_place (key : String) (value : Json) (entries : List (String × Json)) (k : String) :
    find? k (place key value entries) = if key = k then some value else find? k entries := by
  induction entries with
  | nil => simp [place, find?]
  | cons head rest ih =>
    rw [place]
    split
    · simp [find?]
    · split
      · rename_i heq
        by_cases hk : key = k
        · simp [find?, hk]
        · simp [find?, hk, heq ▸ hk]
      · rename_i hne
        by_cases hk : head.1 = k
        · simp [find?, hk, hk ▸ hne]
        · simp [find?, hk, ih]

@[simp] theorem get?_insert (fields : Fields) (key : String) (value : Json) (k : String) :
    (fields.insert key value).get? k = if key = k then some value else fields.get? k :=
  find?_place key value fields.entries k

theorem find?_append (key : String) (xs ys : List (String × Json)) :
    find? key (xs ++ ys) = (find? key xs).or (find? key ys) := by
  induction xs with
  | nil => rfl
  | cons head rest ih =>
    rw [List.cons_append, find?, find?, ih]
    split <;> rfl

/-- Where no name stands twice, what is found is what is there. -/
theorem find?_eq_some_iff_of_nodup {entries : List (String × Json)}
    (h : (entries.map (·.1)).Nodup) {key : String} {value : Json} :
    find? key entries = some value ↔ (key, value) ∈ entries := by
  induction entries with
  | nil => simp [find?]
  | cons head rest ih =>
    obtain ⟨k, v⟩ := head
    obtain ⟨hhead, hrest⟩ := List.nodup_cons.1 h
    rw [find?, List.mem_cons, Prod.mk.injEq]
    by_cases hk : k = key
    · subst hk
      have hnot : (k, value) ∉ rest := fun hmem => hhead (List.mem_map.2 ⟨_, hmem, rfl⟩)
      simp [hnot, eq_comm]
    · simp [hk, Ne.symm hk, ih hrest]

theorem nodup_names {entries : List (String × Json)}
    (h : entries.Pairwise (fun a b => a.1 < b.1)) : (entries.map (·.1)).Nodup :=
  List.pairwise_map.2 (h.imp fun {a b} hlt (heq : a.1 = b.1) => String.lt_irrefl b.1 (heq ▸ hlt))

theorem find?_eq_some_iff {entries : List (String × Json)}
    (h : entries.Pairwise (fun a b => a.1 < b.1)) {key : String} {value : Json} :
    find? key entries = some value ↔ (key, value) ∈ entries :=
  find?_eq_some_iff_of_nodup (nodup_names h)

theorem get?_foldl_insert (entries : List (String × Json)) (fields : Fields) (key : String) :
    (entries.foldl (fun fields e => fields.insert e.1 e.2) fields).get? key =
      (find? key entries.reverse).or (fields.get? key) := by
  induction entries generalizing fields with
  | nil => rfl
  | cons head rest ih =>
    rw [List.foldl_cons, ih, get?_insert, List.reverse_cons, find?_append, Option.or_assoc, find?]
    split <;> rfl

theorem get?_ofList (entries : List (String × Json)) (key : String) :
    (ofList entries).get? key = find? key entries.reverse :=
  (get?_foldl_insert entries empty key).trans Option.or_none

theorem get?_ofList_of_nodup {entries : List (String × Json)} (h : (entries.map (·.1)).Nodup)
    (key : String) : (ofList entries).get? key = find? key entries := by
  have hreverse : (entries.reverse.map (·.1)).Nodup := by
    rw [List.map_reverse]
    exact List.pairwise_reverse.2 (h.imp Ne.symm)
  refine Option.ext fun value => ?_
  rw [get?_ofList, find?_eq_some_iff_of_nodup hreverse, find?_eq_some_iff_of_nodup h,
    List.mem_reverse]

theorem get?_eq_some_iff {fields : Fields} {key : String} {value : Json} :
    fields.get? key = some value ↔ (key, value) ∈ fields.entries :=
  find?_eq_some_iff fields.ascending

theorem ext_get? {a b : Fields} (h : ∀ key, a.get? key = b.get? key) : a = b := by
  have hnodup : ∀ fields : Fields, fields.entries.Nodup := fun fields =>
    List.Pairwise.imp (fun {e f} hlt (heq : e = f) => String.lt_irrefl f.1 (heq ▸ hlt))
      fields.ascending
  have hperm : a.entries.Perm b.entries :=
    (List.perm_ext_iff_of_nodup (hnodup a) (hnodup b)).2 fun e => by
      rw [← get?_eq_some_iff, ← get?_eq_some_iff, h]
  have hentries : a.entries = b.entries :=
    hperm.eq_of_pairwise (fun _ _ _ _ hlt hgt => absurd hgt (String.lt_asymm hlt)) a.ascending
      b.ascending
  cases a
  cases b
  cases hentries
  rfl

theorem ofList_entries (fields : Fields) : ofList fields.entries = fields :=
  ext_get? fun key => get?_ofList_of_nodup (nodup_names fields.ascending) key

theorem insert_of_get? {fields : Fields} {key : String} {value : Json}
    (h : fields.get? key = some value) : fields.insert key value = fields := by
  refine ext_get? fun k => ?_
  rw [get?_insert]
  split
  · rename_i hk
    rw [← hk, h]
  · rfl

theorem find?_eq_none_of_notMem {key : String} {entries : List (String × Json)}
    (h : key ∉ entries.map (·.1)) : find? key entries = none := by
  induction entries with
  | nil => rfl
  | cons e entries ih =>
    rw [List.map_cons, List.mem_cons, not_or] at h
    rw [find?, if_neg (Ne.symm h.1), ih h.2]

theorem find?_filter (p : String → Bool) (key : String) (entries : List (String × Json)) :
    find? key (entries.filter fun e => p e.1) = if p key then find? key entries else none := by
  induction entries with
  | nil => simp [find?]
  | cons e entries ih =>
    by_cases hkey : e.1 = key
    · subst hkey
      cases hp : p e.1 <;> simp_all [find?]
    · cases hp : p e.1 <;> simp [find?, hp, hkey, ih]

end Fields

namespace Json

def ofMembers (members : List (String × Json)) : Json := (Fields.ofList members).toJson

end Json

end WorkflowGraph
