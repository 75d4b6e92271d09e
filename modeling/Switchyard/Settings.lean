import Switchyard.Decimal.Text
import Switchyard.Json.Codec
set_option autoImplicit false

/-! The settings of an orchestrator and their written form. -/
namespace Switchyard

open Json

inductive TraceMode where
  | full
  | essential
  | minimal
  deriving Repr, DecidableEq

namespace TraceMode

def all : List TraceMode := [.full, .essential, .minimal]

def name : TraceMode → String
  | .full => "full"
  | .essential => "essential"
  | .minimal => "minimal"

def title : TraceMode → String
  | .full => "Full"
  | .essential => "Essential"
  | .minimal => "Minimal"

def ofJson? : Json → Option TraceMode := name? all name

end TraceMode

/-- What happens when a walk fails. -/
inductive Strategy where
  | graceful
  | strict
  | hybrid
  deriving Repr, DecidableEq

namespace Strategy

def all : List Strategy := [.graceful, .strict, .hybrid]

def name : Strategy → String
  | .graceful => "graceful"
  | .strict => "strict"
  | .hybrid => "hybrid"

def title : Strategy → String
  | .graceful => "Graceful"
  | .strict => "Strict"
  | .hybrid => "Hybrid"

def ofJson? : Json → Option Strategy := name? all name

end Strategy

structure Settings where
  enabled : Bool := true
  traceMode : TraceMode := .full
  strategy : Strategy := .graceful
  validateInputs : Bool := true
  monitorPerformance : Bool := true
  capabilityTimeoutMs : UInt64 := 25000
  complexityThreshold : Float := 0.7
  retentionSecs : UInt64 := 86400
  maxTracedRequests : UInt64 := 1000
  cleanupIntervalSecs : UInt64 := 300

namespace Settings

def toJson (settings : Settings) : Json :=
  object [("enabled", .bool settings.enabled),
    ("traceability_mode", .str settings.traceMode.name),
    ("fallback_strategy", .str settings.strategy.name),
    ("data_flow_validation", .bool settings.validateInputs),
    ("performance_monitoring", .bool settings.monitorPerformance),
    ("capability_timeout_ms", ofUInt64 settings.capabilityTimeoutMs),
    ("complexity_threshold", ofFloat settings.complexityThreshold),
    ("trace_retention_secs", ofUInt64 settings.retentionSecs),
    ("max_traced_requests", ofUInt64 settings.maxTracedRequests),
    ("cleanup_interval_secs", ofUInt64 settings.cleanupIntervalSecs)]

def ofJson? (value : Json) : Option Settings := do
  guard value.isObject
  return {
    enabled := ← value.withDefault "enabled" true asBool?
    traceMode := ← value.withDefault "traceability_mode" .full TraceMode.ofJson?
    strategy := ← value.withDefault "fallback_strategy" .graceful Strategy.ofJson?
    validateInputs := ← value.withDefault "data_flow_validation" true asBool?
    monitorPerformance := ← value.withDefault "performance_monitoring" true asBool?
    capabilityTimeoutMs := ← value.withDefault "capability_timeout_ms" 25000 uint64?
    complexityThreshold := ← value.withDefault "complexity_threshold" 0.7 asFloat?
    retentionSecs := ← value.withDefault "trace_retention_secs" 86400 uint64?
    maxTracedRequests := ← value.withDefault "max_traced_requests" 1000 uint64?
    cleanupIntervalSecs := ← value.withDefault "cleanup_interval_secs" 300 uint64? }

def describe (settings : Settings) : String :=
  "OrchestrationConfig \x7b " ++ ", ".intercalate [
    "enabled: " ++ toString settings.enabled,
    "traceability_mode: " ++ settings.traceMode.title,
    "fallback_strategy: " ++ settings.strategy.title,
    "data_flow_validation: " ++ toString settings.validateInputs,
    "performance_monitoring: " ++ toString settings.monitorPerformance,
    "capability_timeout_ms: " ++ toString settings.capabilityTimeoutMs,
    "complexity_threshold: " ++ Decimal.Layout.listing.write settings.complexityThreshold,
    "trace_retention_secs: " ++ toString settings.retentionSecs,
    "max_traced_requests: " ++ toString settings.maxTracedRequests,
    "cleanup_interval_secs: " ++ toString settings.cleanupIntervalSecs] ++ " \x7d"

end Settings

end Switchyard
