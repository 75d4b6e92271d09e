import Switchyard.Capability.Basic
import Switchyard.Graph.Codec
import Switchyard.Timestamp
set_option autoImplicit false

/-! What is recorded about a request: one record for every node it ran, one activation for every
leaf, and the views that gather them. -/
namespace Switchyard

open Json

structure DecisionOutcome where
  predicate : String
  result : Bool
  reasoning : String
  deriving Repr, DecidableEq

namespace DecisionOutcome

def toJson (outcome : DecisionOutcome) : Json :=
  object [("predicate", .str outcome.predicate), ("result", .bool outcome.result),
    ("reasoning", .str outcome.reasoning)]

def ofJson? (value : Json) : Option DecisionOutcome := do
  guard value.isObject
  return {
    predicate := ← value.required "predicate" text?
    result := ← value.required "result" asBool?
    reasoning := ← value.required "reasoning" text? }

end DecisionOutcome

structure PerformanceSample where
  startTime : Timestamp
  endTime : Timestamp
  latencyMs : UInt64
  resourceUsage : Option UInt64 := none

namespace PerformanceSample

def toJson (sample : PerformanceSample) : Json :=
  object ([("start_time", sample.startTime.toJson), ("end_time", sample.endTime.toJson),
    ("latency_ms", ofUInt64 sample.latencyMs)] ++
    fieldIfSome "resource_usage" ofUInt64 sample.resourceUsage)

def ofJson? (value : Json) : Option PerformanceSample := do
  guard value.isObject
  return {
    startTime := ← value.required "start_time" Timestamp.ofJson?
    endTime := ← value.required "end_time" Timestamp.ofJson?
    latencyMs := ← value.required "latency_ms" uint64?
    resourceUsage := ← value.optional "resource_usage" uint64? }

end PerformanceSample

structure TraceRecord where
  timestamp : Timestamp
  correlationId : String
  nodeId : String
  nodeKind : DecisionKind
  action : String
  inputsSummary : Json
  outputsSummary : Json
  decision : Option DecisionOutcome := none
  performance : PerformanceSample
  errors : List String := []
  nextNodes : List String

namespace TraceRecord

def isError (record : TraceRecord) : Bool := !record.errors.isEmpty

def toJson (record : TraceRecord) : Json :=
  object ([("timestamp", record.timestamp.toJson),
      ("correlation_id", .str record.correlationId), ("node_id", .str record.nodeId),
      ("node_kind", .str record.nodeKind.name), ("action", .str record.action),
      ("inputs_summary", record.inputsSummary), ("outputs_summary", record.outputsSummary)] ++
    fieldIfSome "decision" DecisionOutcome.toJson record.decision ++
    [("performance", record.performance.toJson)] ++
    (if record.errors.isEmpty then [] else [("errors", texts record.errors)]) ++
    [("next_nodes", texts record.nextNodes)])

def ofJson? (value : Json) : Option TraceRecord := do
  guard value.isObject
  return {
    timestamp := ← value.required "timestamp" Timestamp.ofJson?
    correlationId := ← value.required "correlation_id" text?
    nodeId := ← value.required "node_id" text?
    nodeKind := ← value.required "node_kind" DecisionKind.ofJson?
    action := ← value.required "action" text?
    inputsSummary := ← value.required "inputs_summary" some
    outputsSummary := ← value.required "outputs_summary" some
    decision := ← value.optional "decision" DecisionOutcome.ofJson?
    performance := ← value.required "performance" PerformanceSample.ofJson?
    errors := ← value.withDefault "errors" [] (list? text?)
    nextNodes := ← value.required "next_nodes" (list? text?) }

end TraceRecord

structure NodeActivation where
  correlationId : String
  timestamp : Timestamp
  latencyMs : UInt64
  success : Bool
  deriving Repr, DecidableEq

namespace NodeActivation

def toJson (activation : NodeActivation) : Json :=
  object [("correlation_id", .str activation.correlationId),
    ("timestamp", activation.timestamp.toJson), ("latency_ms", ofUInt64 activation.latencyMs),
    ("success", .bool activation.success)]

def ofJson? (value : Json) : Option NodeActivation := do
  guard value.isObject
  return {
    correlationId := ← value.required "correlation_id" text?
    timestamp := ← value.required "timestamp" Timestamp.ofJson?
    latencyMs := ← value.required "latency_ms" uint64?
    success := ← value.required "success" asBool? }

end NodeActivation

structure SystemMetrics where
  nodeCount : UInt64
  treeSize : UInt64
  activeTraceCount : UInt64
  deriving Repr, DecidableEq

namespace SystemMetrics

def toJson (metrics : SystemMetrics) : Json :=
  object [("node_count", ofUInt64 metrics.nodeCount), ("tree_size", ofUInt64 metrics.treeSize),
    ("active_trace_count", ofUInt64 metrics.activeTraceCount)]

def ofJson? (value : Json) : Option SystemMetrics := do
  guard value.isObject
  return {
    nodeCount := ← value.required "node_count" uint64?
    treeSize := ← value.required "tree_size" uint64?
    activeTraceCount := ← value.required "active_trace_count" uint64? }

end SystemMetrics

structure CompleteTraceability where
  correlationId : String
  traces : List TraceRecord
  orchestrationDecision : Option CapabilityDecision
  capabilityTraces : List TraceRecord

namespace CompleteTraceability

def toJson (whole : CompleteTraceability) : Json :=
  object [("correlation_id", .str whole.correlationId),
    ("traces", .arr (whole.traces.map TraceRecord.toJson)),
    ("orchestration_decision", match whole.orchestrationDecision with
      | none => .null
      | some decision => decision.toJson),
    ("capability_traces", .arr (whole.capabilityTraces.map TraceRecord.toJson))]

def ofJson? (value : Json) : Option CompleteTraceability := do
  guard value.isObject
  return {
    correlationId := ← value.required "correlation_id" text?
    traces := ← value.required "traces" (list? TraceRecord.ofJson?)
    orchestrationDecision :=
      ← value.optional "orchestration_decision" CapabilityDecision.ofJson?
    capabilityTraces := ← value.required "capability_traces" (list? TraceRecord.ofJson?) }

end CompleteTraceability

structure TraceSnapshot where
  generatedAt : Timestamp
  metrics : SystemMetrics
  recent : List TraceRecord

namespace TraceSnapshot

def toJson (snapshot : TraceSnapshot) : Json :=
  object [("generated_at", snapshot.generatedAt.toJson), ("metrics", snapshot.metrics.toJson),
    ("recent", .arr (snapshot.recent.map TraceRecord.toJson))]

def ofJson? (value : Json) : Option TraceSnapshot := do
  guard value.isObject
  return {
    generatedAt := ← value.required "generated_at" Timestamp.ofJson?
    metrics := ← value.required "metrics" SystemMetrics.ofJson?
    recent := ← value.required "recent" (list? TraceRecord.ofJson?) }

end TraceSnapshot

end Switchyard
