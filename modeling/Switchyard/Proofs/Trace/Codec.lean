import Switchyard.Legacy
import Switchyard.Proofs.Graph.Codec
import Switchyard.Proofs.Timestamp.Text
import Switchyard.Trace.Record
set_option autoImplicit false

/-! What is recorded and answered survives being written down. Main statement:
`payloads_survive`. -/
namespace Switchyard

open Json

/-! Capabilities. -/

structure LoadHints.Writable (hints : LoadHints) : Prop where
  budget : ∀ amount, hints.budget = some amount → amount.isFinite = true

theorem LoadHints.ofJson?_toJson {hints : LoadHints} (writable : hints.Writable) :
    ofJson? hints.toJson = some hints := by
  have quality : hints.toJson.optional "quality_mode" text? = some hints.qualityMode :=
    optional_text (by simp [toJson])
  have latency : hints.toJson.optional "max_latency_ms" uint64? = some hints.maxLatencyMs :=
    optional_uint64 (by simp [toJson])
  have found : hints.toJson.field? "budget" = hints.budget.map ofFloat := by simp [toJson]
  have budget : hints.toJson.optional "budget" asFloat? = some hints.budget :=
    optional_eq found fun amount present =>
      ⟨ofFloat_ne_null (writable.budget amount present),
        asFloat?_ofFloat (writable.budget amount present)⟩
  rw [ofJson?, quality, latency, budget]
  rfl

structure CapabilityRequest.Writable (request : CapabilityRequest) : Prop where
  loadHints : request.loadHints.Writable

theorem CapabilityRequest.ofJson?_toJson {request : CapabilityRequest}
    (writable : request.Writable) : ofJson? request.toJson = some request := by
  have user : request.toJson.optional "user_id" text? = some request.userId :=
    optional_text (by simp [toJson])
  have channel : request.toJson.optional "channel_id" text? = some request.channelId :=
    optional_text (by simp [toJson])
  have hints := LoadHints.ofJson?_toJson writable.loadHints
  rw [ofJson?, user, channel]
  simp [toJson, required, withDefault, hints]

structure CapabilityDecision.Writable (decision : CapabilityDecision) : Prop where
  confidence : decision.confidence.isFinite = true
  quality : decision.quality.isFinite = true

theorem CapabilityDecision.ofJson?_toJson {decision : CapabilityDecision}
    (writable : decision.Writable) : ofJson? decision.toJson = some decision := by
  simp [toJson, ofJson?, required, asFloat?_ofFloat writable.confidence,
    asFloat?_ofFloat writable.quality]

/-! Results. -/

theorem ResultSource.name_injective : Function.Injective name := by
  intro first second same
  cases first <;> cases second <;> first | rfl | exact absurd same (by decide)

@[simp] theorem ResultSource.ofJson?_name (source : ResultSource) :
    ofJson? (.str source.name) = some source :=
  name?_str name_injective (by cases source <;> decide)

structure LegacyResult.Writable (result : LegacyResult) : Prop where
  timestamp : result.timestamp.Writable

theorem LegacyResult.ofJson?_toJson {result : LegacyResult} (writable : result.Writable) :
    ofJson? result.toJson = some result := by
  simp [toJson, ofJson?, required, Timestamp.ofJson?_toJson writable.timestamp]

structure OrchestrationResult.Writable (result : OrchestrationResult) : Prop where
  timestamp : result.timestamp.Writable

theorem OrchestrationResult.ofJson?_toJson {result : OrchestrationResult}
    (writable : result.Writable) : ofJson? result.toJson = some result := by
  have found : result.toJson.field? "context" = result.context.map ofDict := by simp [toJson]
  have context : result.toJson.optional "context" asDict? = some result.context :=
    optional_eq found fun context _ => ⟨Json.noConfusion, asDict?_ofDict context⟩
  rw [ofJson?, context]
  simp [toJson, required, Timestamp.ofJson?_toJson writable.timestamp]

/-! Records. -/

theorem DecisionOutcome.ofJson?_toJson (outcome : DecisionOutcome) :
    ofJson? outcome.toJson = some outcome := by
  simp [toJson, ofJson?, required]

structure PerformanceSample.Writable (sample : PerformanceSample) : Prop where
  startTime : sample.startTime.Writable
  endTime : sample.endTime.Writable

theorem PerformanceSample.ofJson?_toJson {sample : PerformanceSample}
    (writable : sample.Writable) : ofJson? sample.toJson = some sample := by
  have usage : sample.toJson.optional "resource_usage" uint64? = some sample.resourceUsage :=
    optional_uint64 (by simp [toJson])
  rw [ofJson?, usage]
  simp [toJson, required, Timestamp.ofJson?_toJson writable.startTime,
    Timestamp.ofJson?_toJson writable.endTime]

structure TraceRecord.Writable (record : TraceRecord) : Prop where
  timestamp : record.timestamp.Writable
  performance : record.performance.Writable

theorem TraceRecord.ofJson?_toJson {record : TraceRecord} (writable : record.Writable) :
    ofJson? record.toJson = some record := by
  have found : record.toJson.field? "decision" = record.decision.map DecisionOutcome.toJson := by
    simp [toJson]
  have decision : record.toJson.optional "decision" DecisionOutcome.ofJson? =
      some record.decision :=
    optional_eq found fun outcome _ => ⟨Json.noConfusion, outcome.ofJson?_toJson⟩
  have errors : record.toJson.withDefault "errors" [] (list? text?) = some record.errors := by
    by_cases none : record.errors.isEmpty
    · rw [withDefault_missing (by simp [toJson, none]), List.isEmpty_iff.mp none]
    · exact withDefault_eq (by simp [toJson, none]) (list?_texts record.errors)
  have performance := PerformanceSample.ofJson?_toJson writable.performance
  rw [ofJson?, decision, errors]
  simp [toJson, required, Timestamp.ofJson?_toJson writable.timestamp, performance]

structure CompleteTraceability.Writable (whole : CompleteTraceability) : Prop where
  traces : ∀ record ∈ whole.traces, record.Writable
  orchestrationDecision : ∀ decision, whole.orchestrationDecision = some decision →
    decision.Writable
  capabilityTraces : ∀ record ∈ whole.capabilityTraces, record.Writable

theorem CompleteTraceability.ofJson?_toJson {whole : CompleteTraceability}
    (writable : whole.Writable) : ofJson? whole.toJson = some whole := by
  have traces := list?_map fun record inside =>
    TraceRecord.ofJson?_toJson (writable.traces record inside)
  have capabilityTraces := list?_map fun record inside =>
    TraceRecord.ofJson?_toJson (writable.capabilityTraces record inside)
  have decision : whole.toJson.optional "orchestration_decision" CapabilityDecision.ofJson? =
      some whole.orchestrationDecision := by
    cases held : whole.orchestrationDecision with
    | none =>
      have found : whole.toJson.field? "orchestration_decision" = some .null := by
        simp [toJson, held]
      rw [Json.optional, found]
    | some decision =>
      have found : whole.toJson.field? "orchestration_decision" = some decision.toJson := by
        simp [toJson, held]
      have read := CapabilityDecision.ofJson?_toJson (writable.orchestrationDecision decision held)
      rw [optional_of_ne_null found Json.noConfusion, read]
      rfl
  rw [ofJson?, decision]
  simp [toJson, required, traces, capabilityTraces]

theorem SystemMetrics.ofJson?_toJson (metrics : SystemMetrics) :
    ofJson? metrics.toJson = some metrics := by
  simp [toJson, ofJson?, required]

structure TraceSnapshot.Writable (snapshot : TraceSnapshot) : Prop where
  generatedAt : snapshot.generatedAt.Writable
  recent : ∀ record ∈ snapshot.recent, record.Writable

theorem TraceSnapshot.ofJson?_toJson {snapshot : TraceSnapshot} (writable : snapshot.Writable) :
    ofJson? snapshot.toJson = some snapshot := by
  have recent := list?_map fun record inside =>
    TraceRecord.ofJson?_toJson (writable.recent record inside)
  simp [toJson, ofJson?, required, Timestamp.ofJson?_toJson writable.generatedAt,
    SystemMetrics.ofJson?_toJson, recent]

/-! All payloads. -/

/-- Values of a type survive encoding: each is read back as it was, and so no two different ones
are written alike. -/
structure Survives {α : Type} (encode : α → Json) (decode : Json → Option α)
    (writable : α → Prop) : Prop where
  reads : ∀ item, writable item → decode (encode item) = some item
  apart : ∀ first second, writable first → writable second → encode first = encode second →
    first = second

theorem Survives.of_reads {α : Type} {encode : α → Json} {decode : Json → Option α}
    {writable : α → Prop}
    (reads : ∀ {item : α}, writable item → decode (encode item) = some item) :
    Survives encode decode writable where
  reads := fun _ holds => reads holds
  apart := by
    intro first second holds holds' same
    have read := reads holds
    rw [same, reads holds'] at read
    exact (Option.some.inj read).symm

/-- Every payload of records, results and capabilities survives encoding, and the text of an
instant, which has no fraction or one of three, six or nine digits, reads back as that instant. The
law is about structured values; `payload_texts_survive` is about their texts. -/
theorem payloads_survive :
    Survives TraceRecord.toJson TraceRecord.ofJson? TraceRecord.Writable ∧
    Survives CompleteTraceability.toJson CompleteTraceability.ofJson?
      CompleteTraceability.Writable ∧
    Survives TraceSnapshot.toJson TraceSnapshot.ofJson? TraceSnapshot.Writable ∧
    Survives OrchestrationResult.toJson OrchestrationResult.ofJson? OrchestrationResult.Writable ∧
    Survives LegacyResult.toJson LegacyResult.ofJson? LegacyResult.Writable ∧
    Survives CapabilityRequest.toJson CapabilityRequest.ofJson? CapabilityRequest.Writable ∧
    Survives CapabilityDecision.toJson CapabilityDecision.ofJson? CapabilityDecision.Writable ∧
    ∀ time : Timestamp, time.Writable →
      time.text.length ∈ [20, 24, 27, 30] ∧ Timestamp.ofText? time.text = some time :=
  ⟨.of_reads TraceRecord.ofJson?_toJson, .of_reads CompleteTraceability.ofJson?_toJson,
    .of_reads TraceSnapshot.ofJson?_toJson, .of_reads OrchestrationResult.ofJson?_toJson,
    .of_reads LegacyResult.ofJson?_toJson, .of_reads CapabilityRequest.ofJson?_toJson,
    .of_reads CapabilityDecision.ofJson?_toJson,
    fun _ writable => ⟨Timestamp.length_text writable, Timestamp.ofText?_text writable⟩⟩

namespace Sample

def lastInstant : Timestamp := { nanos := 253402300799999999999 }

/-- Every field that may be left out is, and both summaries are null. -/
def bareRecord : TraceRecord where
  timestamp := lastInstant
  correlationId := "request"
  nodeId := "node"
  nodeKind := .capability
  action := "configure"
  inputsSummary := .null
  outputsSummary := .null
  performance := { startTime := { nanos := 0 }, endTime := lastInstant, latencyMs := 0 }
  nextNodes := []

def answerIn (context : Option (Dict Json)) : OrchestrationResult :=
  ⟨"request", "hello", .graph, false, context, lastInstant⟩

theorem writable_lastInstant : lastInstant.Writable := ⟨by decide, by decide, rfl⟩

theorem writable_bareRecord : bareRecord.Writable where
  timestamp := writable_lastInstant
  performance := ⟨⟨by decide, by decide, rfl⟩, writable_lastInstant⟩

end Sample

theorem bare_payloads_survive :
    TraceRecord.ofJson? Sample.bareRecord.toJson = some Sample.bareRecord ∧
    (Sample.answerIn none).toJson ≠ (Sample.answerIn (some Dict.empty)).toJson ∧
    Sample.lastInstant.text.length ∈ [20, 24, 27, 30] ∧
    Timestamp.ofText? Sample.lastInstant.text = some Sample.lastInstant := by
  obtain ⟨records, -, -, results, -, -, -, instants⟩ := payloads_survive
  refine ⟨records.reads _ Sample.writable_bareRecord, fun same => ?_,
    instants _ Sample.writable_lastInstant⟩
  have equal := results.apart _ _ ⟨Sample.writable_lastInstant⟩ ⟨Sample.writable_lastInstant⟩ same
  exact nomatch congrArg OrchestrationResult.context equal

end Switchyard
