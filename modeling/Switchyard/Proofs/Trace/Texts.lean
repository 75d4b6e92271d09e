import Switchyard.Proofs.Json.RoundTrip
import Switchyard.Proofs.Trace.Codec
set_option autoImplicit false

/-! Records, results and capabilities as texts. What is written for them can be printed and read
again, as long as their fractional numbers and the structured values in them can. Main statement:
`payload_texts_survive`. -/
namespace Switchyard

open Json

/-! Capabilities. -/

structure LoadHints.Legible (hints : LoadHints) : Prop where
  budget : ∀ amount, hints.budget = some amount → (Json.float amount).Legible

theorem LoadHints.legible_toJson {hints : LoadHints} (legible : hints.Legible) :
    hints.toJson.Legible := by
  have budget := fun amount present => legible_ofFloat (legible.budget amount present)
  exact legible_object (by simpa using budget)

structure CapabilityRequest.Legible (request : CapabilityRequest) : Prop where
  history : ∀ item ∈ request.history, item.Legible
  loadHints : request.loadHints.Legible

theorem CapabilityRequest.legible_toJson {request : CapabilityRequest}
    (legible : request.Legible) : request.toJson.Legible := by
  have history : (Json.arr request.history).Legible := legibleItems_iff.mpr legible.history
  exact legible_object (by simp [history, LoadHints.legible_toJson legible.loadHints])

structure CapabilityDecision.Legible (decision : CapabilityDecision) : Prop where
  confidence : (Json.float decision.confidence).Legible
  quality : (Json.float decision.quality).Legible

theorem CapabilityDecision.legible_toJson {decision : CapabilityDecision}
    (legible : decision.Legible) : decision.toJson.Legible :=
  legible_object (by simp [legible_ofFloat legible.confidence, legible_ofFloat legible.quality])

/-! Results. -/

@[simp] theorem Timestamp.legible_toJson (time : Timestamp) : time.toJson.Legible := trivial

theorem LegacyResult.legible_toJson (result : LegacyResult) : result.toJson.Legible :=
  legible_object (by simp)

structure OrchestrationResult.Legible (result : OrchestrationResult) : Prop where
  context : ∀ context, result.context = some context →
    ∀ key value, context.get? key = some value → value.Legible

theorem OrchestrationResult.legible_toJson {result : OrchestrationResult}
    (legible : result.Legible) : result.toJson.Legible := by
  have context := fun context present => legible_ofDict (legible.context context present)
  exact legible_object (by simpa using context)

/-! Records. -/

@[simp] theorem DecisionOutcome.legible_toJson (outcome : DecisionOutcome) :
    outcome.toJson.Legible := legible_object (by simp)

@[simp] theorem PerformanceSample.legible_toJson (sample : PerformanceSample) :
    sample.toJson.Legible := legible_object (by simp)

@[simp] theorem SystemMetrics.legible_toJson (metrics : SystemMetrics) :
    metrics.toJson.Legible := legible_object (by simp)

structure TraceRecord.Legible (record : TraceRecord) : Prop where
  inputs : record.inputsSummary.Legible
  outputs : record.outputsSummary.Legible

theorem TraceRecord.legible_toJson {record : TraceRecord} (legible : record.Legible) :
    record.toJson.Legible :=
  legible_object (by simp [legible.inputs, legible.outputs])

structure CompleteTraceability.Legible (whole : CompleteTraceability) : Prop where
  traces : ∀ record ∈ whole.traces, record.Legible
  orchestrationDecision : ∀ decision, whole.orchestrationDecision = some decision →
    decision.Legible
  capabilityTraces : ∀ record ∈ whole.capabilityTraces, record.Legible

theorem CompleteTraceability.legible_toJson {whole : CompleteTraceability}
    (legible : whole.Legible) : whole.toJson.Legible := by
  have traces := legible_map fun record inside =>
    TraceRecord.legible_toJson (legible.traces record inside)
  have capabilityTraces := legible_map fun record inside =>
    TraceRecord.legible_toJson (legible.capabilityTraces record inside)
  refine legible_object ?_
  cases held : whole.orchestrationDecision with
  | none => simp [traces, capabilityTraces]
  | some decision =>
    have made := CapabilityDecision.legible_toJson (legible.orchestrationDecision decision held)
    simp [traces, capabilityTraces, made]

structure TraceSnapshot.Legible (snapshot : TraceSnapshot) : Prop where
  recent : ∀ record ∈ snapshot.recent, record.Legible

theorem TraceSnapshot.legible_toJson {snapshot : TraceSnapshot} (legible : snapshot.Legible) :
    snapshot.toJson.Legible := by
  have recent := legible_map fun record inside =>
    TraceRecord.legible_toJson (legible.recent record inside)
  exact legible_object (by simp [recent])

/-! All payloads. -/

/-- Every payload of records, results and capabilities survives being printed and read again. -/
theorem payload_texts_survive :
    TextSurvives TraceRecord.toJson TraceRecord.ofJson?
      (fun record => record.Writable ∧ record.Legible) ∧
    TextSurvives CompleteTraceability.toJson CompleteTraceability.ofJson?
      (fun whole => whole.Writable ∧ whole.Legible) ∧
    TextSurvives TraceSnapshot.toJson TraceSnapshot.ofJson?
      (fun snapshot => snapshot.Writable ∧ snapshot.Legible) ∧
    TextSurvives OrchestrationResult.toJson OrchestrationResult.ofJson?
      (fun result => result.Writable ∧ result.Legible) ∧
    TextSurvives LegacyResult.toJson LegacyResult.ofJson? LegacyResult.Writable ∧
    TextSurvives CapabilityRequest.toJson CapabilityRequest.ofJson?
      (fun request => request.Writable ∧ request.Legible) ∧
    TextSurvives CapabilityDecision.toJson CapabilityDecision.ofJson?
      (fun decision => decision.Writable ∧ decision.Legible) :=
  ⟨.of_reads (fun both => TraceRecord.ofJson?_toJson both.1)
      fun both => TraceRecord.legible_toJson both.2,
    .of_reads (fun both => CompleteTraceability.ofJson?_toJson both.1)
      fun both => CompleteTraceability.legible_toJson both.2,
    .of_reads (fun both => TraceSnapshot.ofJson?_toJson both.1)
      fun both => TraceSnapshot.legible_toJson both.2,
    .of_reads (fun both => OrchestrationResult.ofJson?_toJson both.1)
      fun both => OrchestrationResult.legible_toJson both.2,
    .of_reads LegacyResult.ofJson?_toJson fun _ => LegacyResult.legible_toJson _,
    .of_reads (fun both => CapabilityRequest.ofJson?_toJson both.1)
      fun both => CapabilityRequest.legible_toJson both.2,
    .of_reads (fun both => CapabilityDecision.ofJson?_toJson both.1)
      fun both => CapabilityDecision.legible_toJson both.2⟩

end Switchyard
