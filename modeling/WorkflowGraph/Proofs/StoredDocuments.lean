import WorkflowGraph.Document.Basic
import WorkflowGraph.Proofs.Decoded
set_option autoImplicit false

namespace WorkflowGraph

open Source (ofJson)
open RecordReader (takes_pure yields_andPart yields_anyPart)
open Decoding (Yields)

theorem NodeType.read_ofJson (type : NodeType) (dialect : Dialect) :
    NodeType.read dialect (ofJson (.string type.name)) = pure type := by
  rw [NodeType.read, Source.variant_ofJson]
  cases type <;> rfl

theorem Node.read_ofJson {node : Node} (h : node.config.Ordered) (dialect : Dialect) :
    Node.read dialect (ofJson node.toJson) = pure node := by
  refine RecordReader.Takes.read_toJson ?_ dialect
  exact (takes_pure Node.mk _)
    |>.required (by simp) (Source.text_ofJson node.id)
    |>.required (by simp) (node.type.read_ofJson dialect)
    |>.withDefault (by simp) (Source.fields_ofJson h)

theorem Node.yields_read (dialect : Dialect) (s : Source) :
    (Node.read dialect s).Yields fun node => node.config.Ordered := by
  refine RecordReader.yields_read (Q := fun _ => True) (fun find _ => ?_)
    (.of_forall fun _ _ _ => trivial) dialect
  refine yields_andPart (A := Fields.Ordered) ?_ (fun t _ => t.yields_fields)
    (.pure Fields.ordered_empty)
  exact yields_anyPart (yields_anyPart (.pure fun _ _ _ hconfig => hconfig))

theorem Edge.read_ofJson (edge : Edge) (dialect : Dialect) :
    Edge.read dialect (ofJson edge.toJson) = pure edge := by
  have htext : ∀ {o : Option String}, ∀ text, o = some text →
      Json.string text ≠ .null ∧ (ofJson (.string text)).text = pure text :=
    fun text _ => ⟨nofun, Source.text_ofJson text⟩
  refine RecordReader.Takes.read_toJson ?_ dialect
  exact (takes_pure Edge.mk _)
    |>.required (by simp) (Source.text_ofJson edge.id)
    |>.required (by simp) (Source.text_ofJson edge.source)
    |>.required (by simp) (Source.text_ofJson edge.target)
    |>.optional (by simp) htext
    |>.optional (by simp) htext

namespace Graph

def Storable (g : Graph) : Prop := ∀ node ∈ g.nodes, node.config.Ordered

theorem reader_takes {g : Graph} (h : g.Storable) (dialect : Dialect) {find : String → Option Json}
    (hnodes : find "nodes" = some (.array (g.nodes.map Node.toJson)))
    (hedges : find "edges" = some (.array (g.edges.map Edge.toJson))) :
    (reader dialect).Takes find g :=
  (takes_pure Graph.mk _)
    |>.withDefault hnodes
      (Source.listOf_ofJson fun node hnode => Node.read_ofJson (h node hnode) dialect)
    |>.withDefault hedges
      (Source.listOf_ofJson fun edge _ => edge.read_ofJson dialect)

theorem yields_build (dialect : Dialect) (find : String → Option Source) :
    ((reader dialect).build find).Yields Graph.Storable := by
  refine yields_anyPart ?_
  refine yields_andPart (A := fun nodes => ∀ node ∈ nodes, node.config.Ordered) ?_
    (fun s _ => ?_) (.pure (by simp))
  · exact .pure fun _ hnodes _ => hnodes
  · exact Source.yields_listOf (Q := fun _ => True) (fun t _ => Node.yields_read dialect t)
      (.of_forall fun _ _ _ => trivial)

end Graph

theorem FieldType.read_ofJson (type : FieldType) (dialect : Dialect) :
    FieldType.read dialect (ofJson (.string type.name)) = pure type := by
  rw [FieldType.read, Source.variant_ofJson]
  cases type <;> rfl

namespace FieldDef

/-- The default, if there is one, is in order and is not null, which would stand for no default. -/
def Storable (f : FieldDef) : Prop := ∀ v, f.default = some v → v ≠ .null ∧ v.Ordered

theorem read_ofJson {f : FieldDef} (h : f.Storable) (dialect : Dialect) :
    FieldDef.read dialect (ofJson f.toJson) = pure f := by
  have hdefault : ∀ v, f.default = some v → v ≠ .null ∧ (ofJson v).value = pure v :=
    fun v hv => ⟨(h v hv).1, Source.value_ofJson v (h v hv).2⟩
  have htexts : ∀ texts, f.enumValues = some texts → Json.array (texts.map .string) ≠ .null ∧
      (ofJson (.array (texts.map .string))).listOf Source.text = pure texts :=
    fun texts _ => ⟨nofun, Source.texts_ofJson texts⟩
  refine RecordReader.Takes.read_toJson ?_ dialect
  exact (takes_pure FieldDef.mk _)
    |>.required (by simp) (Source.text_ofJson f.key)
    |>.required (by simp) (f.type.read_ofJson dialect)
    |>.withDefault (by simp) (Source.flag_ofJson f.required)
    |>.optional (by simp) hdefault
    |>.optional (by simp) htexts

theorem yields_read {s : Source} (h : s.IsJson) (dialect : Dialect) :
    (FieldDef.read dialect s).Yields FieldDef.Storable := by
  refine RecordReader.yields_read (fun find hfind => ?_) h.yields_children dialect
  refine yields_anyPart (yields_andPart ?_
    (fun t ht => Source.yields_optional_value (hfind _ t ht)) (.pure nofun))
  exact yields_anyPart (yields_anyPart (yields_anyPart (.pure fun _ _ _ _ hdefault _ => hdefault)))

end FieldDef

namespace Schema

def Storable (schema : Schema) : Prop := ∀ f ∈ schema.fields, f.Storable

theorem read_ofJson {schema : Schema} (h : schema.Storable) (dialect : Dialect) :
    Schema.read dialect (ofJson schema.toJson) = pure schema := by
  rw [Schema.read, toJson,
    Source.listOf_ofJson fun f hf => FieldDef.read_ofJson (h f hf) dialect, map_pure]

theorem yields_read {s : Source} (h : s.IsJson) (dialect : Dialect) :
    (Schema.read dialect s).Yields Schema.Storable :=
  (Source.yields_listOf (fun _ hf => FieldDef.yields_read hf dialect) h.yields_children).map
    fun _ hfields => hfields

end Schema

namespace Document

structure Storable (d : Document) : Prop where
  graph : d.graph.Storable
  schema : ∀ schema, d.schema = some schema → schema.Storable
  initialState : ∀ s, d.initialState = some s → s.Ordered

def isHeld (name : String) : Bool := name ≠ "schema" && name ≠ "initialState"

section Members

variable {dialect : Dialect} {schema : Option Schema} {initialState : Option State}
  {entries : List (String × Json)}

theorem gather_ofMembers (hnodup : (entries.map (·.1)).Nodup)
    (hschema : ∀ v, Fields.find? "schema" entries = some v →
      (ofJson v).optional (Schema.read dialect) = pure schema)
    (hstate : ∀ v, Fields.find? "initialState" entries = some v →
      (ofJson v).optional Source.fields = pure initialState)
    {draft : Draft} (hdraft : draft.schema.isSome → Fields.find? "schema" entries = none)
    (hdraft' : draft.initialState.isSome → Fields.find? "initialState" entries = none) :
    gather dialect draft (Source.ofMembers entries) = pure
      { schema := ((Fields.find? "schema" entries).map fun _ => schema).or draft.schema
        initialState :=
          ((Fields.find? "initialState" entries).map fun _ => initialState).or draft.initialState
        held := draft.held ++ Source.ofMembers (entries.filter fun e => isHeld e.1) } := by
  induction entries generalizing draft with
  | nil => simp [Source.ofMembers, gather]
  | cons e entries ih =>
    obtain ⟨key, v⟩ := e
    obtain ⟨hkey, hrest⟩ := List.nodup_cons.1 hnodup
    have habsent := Fields.find?_eq_none_of_notMem hkey
    have hname : (Source.atom (.string key)).text = pure key := rfl
    rw [Source.ofMembers, gather, hname, pure_bind]
    by_cases hs : key = "schema"
    · subst hs
      have hnone : draft.schema = none := by simpa using hdraft
      rw [if_pos rfl, hnone, hschema v (by simp), Option.isSome_none, if_neg (by simp), pure_bind,
        ih hrest (by simp [habsent]) (by simpa using hstate) (by simp [habsent])
          (by simpa using hdraft')]
      simp [habsent, isHeld]
    · by_cases hi : key = "initialState"
      · subst hi
        have hnone : draft.initialState = none := by simpa using hdraft'
        rw [if_neg hs, if_pos rfl, hnone, hstate v (by simp), Option.isSome_none,
          if_neg (by simp), pure_bind, ih hrest (by simpa using hschema) (by simp [habsent])
            (by simpa using hdraft) (by simp [habsent])]
        simp [habsent, isHeld]
      · rw [if_neg hs, if_neg hi, Source.hold_ofJson, pure_bind,
          ih hrest (by simpa [hs] using hschema) (by simpa [hi] using hstate)
            (by simpa [hs] using hdraft) (by simpa [hi] using hdraft')]
        simp [hs, hi, isHeld, Source.ofMembers]

end Members

theorem Draft.finish_of_takes {draft : Draft} {entries : List (String × Json)} {graph : Graph}
    (hheld : draft.held = Source.ofMembers entries) (hnodup : (entries.map (·.1)).Nodup)
    (h : (Graph.reader .held).Takes (Fields.find? · entries) graph) :
    draft.finish = pure ⟨graph, draft.schema.join, draft.initialState.join⟩ := by
  rw [finish, hheld, h.ofMembers hnodup, pure_bind]

theorem read_ofJson {d : Document} (h : d.Storable) (dialect : Dialect) :
    Document.read dialect (ofJson d.toJson) = pure d := by
  obtain ⟨graph, schema, initialState⟩ := d
  have hschema : ∀ v, schema.map Schema.toJson = some v →
      (ofJson v).optional (Schema.read dialect) = pure schema := by
    intro v hv
    obtain ⟨schema, rfl, rfl⟩ := Option.map_eq_some_iff.1 hv
    have hnull : schema.toJson ≠ .null := nofun
    rw [Source.optional_ofJson _ hnull, Schema.read_ofJson (h.schema schema rfl), map_pure]
  have hstate : ∀ v, initialState.map Fields.toJson = some v →
      (ofJson v).optional Source.fields = pure initialState := by
    intro v hv
    obtain ⟨s, rfl, rfl⟩ := Option.map_eq_some_iff.1 hv
    have hnull : s.toJson ≠ .null := nofun
    rw [Source.optional_ofJson _ hnull, Source.fields_ofJson (h.initialState s rfl), map_pure]
  rw [toJson, Json.ofMembers]
  generalize hfields : Fields.ofList _ = fields
  have hget : ∀ key, Fields.find? key fields.entries = fields.get? key := fun _ => rfl
  have hfindSchema : fields.get? "schema" = schema.map Schema.toJson := by
    simp [← hfields, Graph.members]
  have hfindState : fields.get? "initialState" = initialState.map Fields.toJson := by
    simp [← hfields, Graph.members]
  have hfindNodes : fields.get? "nodes" = some (.array (graph.nodes.map Node.toJson)) := by
    simp [← hfields, Graph.members]
  have hfindEdges : fields.get? "edges" = some (.array (graph.edges.map Edge.toJson)) := by
    simp [← hfields, Graph.members]
  have hnodup := Fields.nodup_names fields.ascending
  rw [Document.read, Source.follow_ofJson, pure_bind, Fields.toJson, ofJson]
  dsimp only
  rw [gather_ofMembers hnodup (by rwa [hget, hfindSchema]) (by rwa [hget, hfindState]) (by simp)
    (by simp), pure_bind, Ending.check, pure_bind]
  have hheld : ((fields.entries.filter fun e => isHeld e.1).map (·.1)).Nodup :=
    (List.filter_sublist.map _).nodup hnodup
  have hgraph : (Graph.reader .held).Takes
      (Fields.find? · (fields.entries.filter fun e => isHeld e.1)) graph :=
    Graph.reader_takes h.graph .held (by rw [Fields.find?_filter, hget, hfindNodes]; rfl)
      (by rw [Fields.find?_filter, hget, hfindEdges]; rfl)
  rw [Draft.finish_of_takes (List.nil_append _) hheld hgraph, hget, hget,
    hfindSchema, hfindState]
  cases schema <;> cases initialState <;> rfl

structure Draft.Storable (draft : Draft) : Prop where
  schema : ∀ schema, draft.schema = some (some schema) → schema.Storable
  initialState : ∀ s, draft.initialState = some (some s) → s.Ordered

theorem yields_gather {draft : Draft} (hdraft : draft.Storable) {members : List (Source × Source)}
    (hmembers : ∀ e ∈ members, e.2.IsJson) (dialect : Dialect) :
    (gather dialect draft members).Yields Draft.Storable := by
  induction members generalizing draft with
  | nil => exact .pure hdraft
  | cons e members ih =>
    obtain ⟨key, item⟩ := e
    obtain ⟨hitem, hrest⟩ := List.forall_mem_cons.1 hmembers
    rw [gather]
    refine .then fun name => ?_
    split
    · split
      · exact .throw _
      · have hread := Source.yields_optional (fun _ ht => Schema.yields_read ht dialect)
          hitem.yields_follow
        refine hread.bind fun schema hschema => ih ⟨fun found hfound => ?_, ?_⟩ hrest
        · exact hschema found (Option.some.inj hfound)
        · exact hdraft.initialState
    · split
      · split
        · exact .throw _
        · have hread := Source.yields_optional (fun t _ => t.yields_fields) hitem.yields_follow
          refine hread.bind fun state hstate => ih ⟨?_, fun found hfound => ?_⟩ hrest
          · exact hdraft.schema
          · exact hstate found (Option.some.inj hfound)
      · exact .then fun _ => ih ⟨hdraft.schema, hdraft.initialState⟩ hrest

theorem Draft.yields_finish {draft : Draft} (h : draft.Storable) :
    draft.finish.Yields Document.Storable := by
  rw [finish]
  have hgraph : ((Graph.reader .held).ofMembers draft.held .closed).Yields Graph.Storable :=
    RecordReader.yields_ofMembers (Q := fun _ => True) (fun find _ => Graph.yields_build .held find)
      (fun _ _ => trivial) .closed
  refine hgraph.bind fun graph hgraph => .pure ⟨hgraph, fun schema hschema => ?_, fun s hs => ?_⟩
  · exact h.schema schema (Option.join_eq_some_iff.1 hschema)
  · exact h.initialState s (Option.join_eq_some_iff.1 hs)

theorem yields_read {s : Source} (h : s.IsJson) (dialect : Dialect) :
    (Document.read dialect s).Yields Document.Storable := by
  have hmembers : ∀ (members : List (Source × Source)) ending, (∀ e ∈ members, e.2.IsJson) →
      Yields (do
        let draft ← gather dialect ⟨none, none, []⟩ members
        Ending.check ending
        draft.finish) Document.Storable := by
    intro members ending hmembers
    have hempty : Draft.Storable ⟨none, none, []⟩ := ⟨by simp, by simp⟩
    exact (yields_gather hempty hmembers dialect).bind fun draft hdraft =>
      .then fun _ => Draft.yields_finish hdraft
  rw [Document.read, h.follow, pure_bind]
  cases s with
  | mapping members ending => exact hmembers members ending (Source.areJsonMembers_iff.1 h)
  | scalar s => exact h.elim
  | tagged inner => exact h.elim
  | _ => exact .throw _

end Document

end WorkflowGraph
