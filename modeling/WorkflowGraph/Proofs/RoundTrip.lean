import WorkflowGraph.Graph.Run
import WorkflowGraph.Proofs.Progress
import WorkflowGraph.Proofs.StoredDocuments
set_option autoImplicit false

namespace WorkflowGraph

open Source (ofJson)
open RecordReader (takes_pure)

theorem DiagnosticKind.read_ofJson (kind : DiagnosticKind) (dialect : Dialect) :
    DiagnosticKind.read dialect (ofJson (.string kind.name)) = pure kind := by
  rw [DiagnosticKind.read, Source.variant_ofJson]
  cases kind <;> rfl

theorem Diagnostic.read_ofJson (d : Diagnostic) (dialect : Dialect) :
    Diagnostic.read dialect (ofJson d.toJson) = pure d := by
  refine RecordReader.Takes.read_toJson ?_ dialect
  exact (takes_pure Diagnostic.mk _)
    |>.required (by simp) (d.kind.read_ofJson dialect)
    |>.required (by simp) (Source.text_ofJson d.message)
    |>.required (by simp) (Source.texts_ofJson d.relatedIds)

structure Times where
  began : String
  ended : String
  duration : Json.Number
  began_valid : (Timestamp.parse? began).isSome
  ended_valid : (Timestamp.parse? ended).isSome

theorem Source.exists_timestamp_ofJson {text : String} (h : (Timestamp.parse? text).isSome) :
    ∃ time, (ofJson (.string text)).timestamp = pure time := by
  obtain ⟨time, htime⟩ := Option.isSome_iff_exists.1 h
  refine ⟨time, ?_⟩
  rw [Source.timestamp, Source.text_ofJson, pure_bind, htime]

namespace Step

structure Storable (step : Step) : Prop where
  before : step.before.Ordered
  after : step.after.Ordered

def timedJson (step : Step) (times : Times) : Json :=
  (((step.toJson.fields.insert "startedAt" (.string times.began)).insert "endedAt"
    (.string times.ended)).insert "durationMs" (.number times.duration)).toJson

theorem reader_takes {step : Step} (h : step.Storable) (dialect : Dialect) :
    (reader dialect).Takes step.toJson.fields.get? step := by
  rw [toJson, Json.fields_ofMembers]
  exact (takes_pure Step.mk _)
    |>.required (by simp) (Source.word64_ofJson step.number)
    |>.required (by simp) (Source.text_ofJson step.nodeId)
    |>.required (by simp) (step.nodeType.read_ofJson dialect)
    |>.required (by simp) (Source.texts_ofJson step.fired)
    |>.required (by simp) (Source.texts_ofJson step.blocked)
    |>.required (by simp) (Source.fields_ofJson h.before)
    |>.required (by simp) (Source.fields_ofJson h.after)
    |>.required (by simp) (Source.text_ofJson step.explanation)

theorem read_of_takes {step : Step} {dialect : Dialect} {timed : Bool} {fields : Fields}
    (h : (if timed then timedReader dialect else reader dialect).Takes fields.get? step) :
    Step.read dialect timed (ofJson fields.toJson) = pure step := by
  have hread := h.read_toJson dialect
  rw [Fields.toJson, ofJson] at hread ⊢
  have hfollow : (Source.mapping (Source.ofMembers fields.entries) .closed).follow =
      pure (.mapping (Source.ofMembers fields.entries) .closed) := rfl
  rw [Step.read, hfollow, pure_bind]
  exact hread

theorem read_ofJson {step : Step} (h : step.Storable) (dialect : Dialect) :
    Step.read dialect false (ofJson step.toJson) = pure step := by
  have hfields : step.toJson.fields.toJson = step.toJson := Json.toJson_fields_ofMembers _
  rw [← hfields]
  exact read_of_takes (reader_takes h dialect)

/-- The parts of a step are other members than its times. -/
theorem ne_of_mem_parts {dialect : Dialect} : ∀ part ∈ (reader dialect).parts,
    "startedAt" ≠ part.1 ∧ "endedAt" ≠ part.1 ∧ "durationMs" ≠ part.1 := by
  simp [reader, RecordReader.required, RecordReader.andPart, RecordReader.pure]

theorem read_timedJson {step : Step} (h : step.Storable) (times : Times) (dialect : Dialect)
    (timed : Bool) : Step.read dialect timed (ofJson (step.timedJson times)) = pure step := by
  obtain ⟨began, hbegan⟩ := Source.exists_timestamp_ofJson times.began_valid
  obtain ⟨ended, hended⟩ := Source.exists_timestamp_ofJson times.ended_valid
  refine read_of_takes ?_
  generalize hfields :
    ((step.toJson.fields.insert "startedAt" (.string times.began)).insert "endedAt"
      (.string times.ended)).insert "durationMs" (.number times.duration) = fields
  have hbeganAt : fields.get? "startedAt" = some (.string times.began) := by simp [← hfields]
  have hendedAt : fields.get? "endedAt" = some (.string times.ended) := by simp [← hfields]
  have hduration : fields.get? "durationMs" = some (.number times.duration) := by simp [← hfields]
  have huntimed : (reader dialect).Takes fields.get? step := by
    refine (reader_takes h dialect).congr fun part hpart => ?_
    obtain ⟨hbeganNe, hendedNe, hdurationNe⟩ := ne_of_mem_parts part hpart
    simp [← hfields, hbeganNe, hendedNe, hdurationNe]
  cases timed with
  | false =>
    rw [if_neg Bool.false_ne_true]
    exact huntimed
  | true =>
    have hstep := huntimed.map fun (step : Step) (_ _ : Timestamp) (_ : Json.Number) => step
    have htimed := ((hstep.required hbeganAt hbegan).required hendedAt hended).required hduration
      (Source.number_ofJson times.duration)
    rw [if_pos rfl]
    exact htimed

end Step

namespace Trace

structure Storable (t : Trace) : Prop where
  steps : ∀ step ∈ t.steps, step.Storable
  finalState : t.finalState.Ordered

def timedJson (t : Trace) (times : Nat → Times) : Json :=
  (t.toJson.fields.insert "steps"
    (.array (t.steps.map fun step => step.timedJson (times step.number)))).toJson

theorem reader_takes {t : Trace} (h : t.finalState.Ordered) (dialect : Dialect) {timed : Bool}
    {write : Step → Json}
    (hwrite : ∀ step ∈ t.steps, Step.read dialect timed (ofJson (write step)) = pure step) :
    (reader dialect timed).Takes
      (t.toJson.fields.insert "steps" (.array (t.steps.map write))).get? t := by
  have herror : ∀ d, t.error = some d → d.toJson ≠ .null ∧
      Diagnostic.read dialect (ofJson d.toJson) = pure d :=
    fun d _ => ⟨nofun, d.read_ofJson dialect⟩
  rw [toJson, Json.fields_ofMembers]
  exact (takes_pure Trace.mk _)
    |>.required (by simp) (Source.listOf_ofJson hwrite)
    |>.required (by simp) (Source.fields_ofJson h)
    |>.required (by simp) (Source.flag_ofJson t.terminated)
    |>.optional (by simp) herror

theorem read_ofJson {t : Trace} (h : t.Storable) (dialect : Dialect) :
    Trace.read dialect (ofJson t.toJson) = pure t := by
  have hfields : t.toJson.fields.toJson = t.toJson := Json.toJson_fields_ofMembers _
  have hsteps : t.toJson.fields.get? "steps" = some (.array (t.steps.map Step.toJson)) := by
    rw [toJson, Json.fields_ofMembers]
    simp
  have htakes := reader_takes h.finalState dialect fun step hstep =>
    Step.read_ofJson (h.steps step hstep) dialect
  -- The steps as they are written stand there already.
  rw [Fields.insert_of_get? hsteps] at htakes
  have hread := htakes.read_toJson dialect
  rw [← hfields]
  rw [Fields.toJson, ofJson] at hread ⊢
  have hfollow : (Source.mapping (Source.ofMembers t.toJson.fields.entries) .closed).follow =
      pure (.mapping (Source.ofMembers t.toJson.fields.entries) .closed) := rfl
  rw [Trace.read, hfollow, pure_bind]
  exact hread

theorem read_timedJson {t : Trace} (h : t.Storable) (times : Nat → Times) (dialect : Dialect)
    (timed : Bool) :
    (reader dialect timed).read dialect (ofJson (t.timedJson times)) = pure t :=
  (reader_takes h.finalState dialect fun step hstep =>
    Step.read_timedJson (h.steps step hstep) (times step.number) dialect timed).read_toJson dialect

end Trace

theorem NodeType.ordered_writes (type : NodeType) (node : Node) :
    ∀ e ∈ type.writes node, e.2.Ordered := by
  cases type <;> simp [writes, Json.Ordered]

theorem Graph.run_storable (g : Graph) (budget : Nat) {initial : State} (h : initial.Ordered) :
    (g.run budget initial).Storable := by
  have hrun := g.run_induction
    (motive := fun steps s => (∀ step ∈ steps, step.Storable) ∧ s.Ordered) ⟨nofun, h⟩
    (fun steps s node _ ⟨hsteps, hs⟩ => ?_) budget
  · exact ⟨hrun.1, hrun.2⟩
  · have hafter : (node.type.apply node s).Ordered :=
      hs.foldl_insert (node.type.ordered_writes node)
    refine ⟨fun step hstep => ?_, hafter⟩
    rcases List.mem_append.1 hstep with hstep | hstep
    · exact hsteps step hstep
    · obtain rfl := List.mem_singleton.1 hstep
      exact ⟨hs, hafter⟩

/-- The value is read from some JSON text or from some JSON value. -/
def Json.Decodes {α : Type} (read : Dialect → Source → Decoding α) (a : α) : Prop :=
  (∃ text, Json.decode (read .streamed) text = .ok a) ∨
    ∃ dialect v, Source.readValue (read dialect) v = .ok a

theorem Json.Decodes.of_yields {α : Type} {read : Dialect → Source → Decoding α} {a : α}
    (h : Json.Decodes read a) {P : α → Prop}
    (hread : ∀ s : Source, s.IsJson → ∀ dialect, (read dialect s).Yields P) : P a := by
  rcases h with ⟨text, htext⟩ | ⟨dialect, v, hv⟩
  · obtain ⟨s, hs, hrun⟩ := Json.exists_isJson_of_decode htext
    exact (hread s hs .streamed).of_run' hrun
  · exact (hread _ (Source.isJson_ofJson v) dialect).of_run' hv

/-- Every document, schema and state that is read from JSON is read again from what is written for
it, and so is the trace of every run, without times and with any. The run starts from a state in
order, as every state is that has been read. -/
theorem round_trips :
    (∀ d : Document, Json.Decodes Document.read d →
      ∀ dialect, Source.readValue (Document.read dialect) d.toJson = .ok d) ∧
    (∀ schema : Schema, Json.Decodes Schema.read schema →
      ∀ dialect, Source.readValue (Schema.read dialect) schema.toJson = .ok schema) ∧
    (∀ s : State, Json.Decodes (fun _ => Source.fields) s →
      Source.readValue Source.fields s.toJson = .ok s) ∧
    ∀ (g : Graph) (budget : Nat) (initial : State), initial.Ordered → ∀ dialect,
      Source.readValue (Trace.read dialect) (g.run budget initial).toJson =
          .ok (g.run budget initial) ∧
        ∀ times : Nat → Times,
          Source.readValue ((Trace.reader dialect true).read dialect)
              ((g.run budget initial).timedJson times) =
            .ok (g.run budget initial) := by
  refine ⟨fun d hd dialect => ?_, fun schema hschema dialect => ?_, fun s hs => ?_,
    fun g budget initial hinitial dialect => ⟨?_, fun times => ?_⟩⟩
  · have hstorable : d.Storable := hd.of_yields fun s hs dialect => Document.yields_read hs dialect
    exact Source.readValue_of_ofJson (Document.read_ofJson hstorable dialect)
  · have hstorable : schema.Storable :=
      hschema.of_yields fun s hs dialect => Schema.yields_read hs dialect
    exact Source.readValue_of_ofJson (Schema.read_ofJson hstorable dialect)
  · have hordered : s.Ordered := hs.of_yields fun t _ _ => t.yields_fields
    exact Source.readValue_of_ofJson (Source.fields_ofJson hordered)
  · exact Source.readValue_of_ofJson (Trace.read_ofJson (g.run_storable budget hinitial) dialect)
  · exact Source.readValue_of_ofJson
      (Trace.read_timedJson (g.run_storable budget hinitial) times dialect true)

def sparseSchema : Schema := ⟨[⟨"k", .array, false, none, none⟩]⟩

def sparseState : State :=
  ⟨[("z", .object [("x", .bool true), ("y", .null)])], List.pairwise_singleton _ _⟩

def sparseDocument : Document :=
  ⟨⟨[⟨"a", .llm, {}⟩, ⟨"b", .start, {}⟩], []⟩, sparseSchema, sparseState⟩

def sparseSchemaJson : Json :=
  .array [.object [("key", .string "k"), ("type", .string "array"), ("default", .null)]]

def sparseStateJson : Json :=
  .object [("z", .object [("y", .number (.int 1)), ("x", .bool true), ("y", .null)])]

def sparseJson : Json :=
  .object
    [("schema", sparseSchemaJson), ("version", .number (.int 2)), ("initialState", sparseStateJson),
      ("nodes", .array
        [.object [("type", .string "LLM"), ("id", .string "a")],
          .object [("id", .string "b"), ("type", .object [("Start", .null)])]])]

def sparseRun : Trace :=
  Graph.run ⟨sparseDocument.graph.nodes, [⟨"e", "b", "a", none, some "on"⟩]⟩ 1 sparseState

def noon : Times where
  began := "2024-02-29T12:00:00Z"
  ended := "2024-02-29 12:00:01+00:00"
  duration := .int 1000
  began_valid := by decide +kernel
  ended_valid := by decide +kernel

theorem sparse_round_trips :
    Source.readValue (Document.read .streamed) sparseJson = .ok sparseDocument ∧
    Source.readValue (Document.read .held) sparseDocument.toJson = .ok sparseDocument ∧
    Source.readValue (Schema.read .streamed) sparseSchemaJson = .ok sparseSchema ∧
    Source.readValue (Schema.read .stored) sparseSchema.toJson = .ok sparseSchema ∧
    Source.readValue Source.fields sparseStateJson = .ok sparseState ∧
    Source.readValue Source.fields sparseState.toJson = .ok sparseState ∧
    Source.readValue (Trace.read .stored) sparseRun.toJson = .ok sparseRun ∧
    Source.readValue ((Trace.reader .streamed true).read .streamed)
        (sparseRun.timedJson fun _ => noon) = .ok sparseRun := by
  obtain ⟨hdocument, hschema, hstate, hrun⟩ := round_trips
  have hread : Source.readValue (Document.read .streamed) sparseJson = .ok sparseDocument := rfl
  have hreadSchema :
      Source.readValue (Schema.read .streamed) sparseSchemaJson = .ok sparseSchema := rfl
  have hreadState : Source.readValue Source.fields sparseStateJson = .ok sparseState := rfl
  have hxy : "x" < "y" := by decide
  have hordered : sparseState.Ordered := Fields.orderedMembers_entries_iff.1
    ⟨⟨List.pairwise_pair.2 hxy, trivial, trivial, trivial⟩, trivial⟩
  have hagain := hdocument sparseDocument (.inr ⟨.streamed, sparseJson, hread⟩) .held
  have hschemaAgain :=
    hschema sparseSchema (.inr ⟨.streamed, sparseSchemaJson, hreadSchema⟩) .stored
  have hstateAgain := hstate sparseState (.inr ⟨.stored, sparseStateJson, hreadState⟩)
  have htrace := hrun ⟨sparseDocument.graph.nodes, [⟨"e", "b", "a", none, some "on"⟩]⟩ 1 sparseState
    hordered
  exact ⟨hread, hagain, hreadSchema, hschemaAgain, hreadState, hstateAgain, (htrace .stored).1,
    (htrace .streamed).2 fun _ => noon⟩

end WorkflowGraph
