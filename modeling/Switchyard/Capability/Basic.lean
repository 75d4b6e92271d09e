import Switchyard.Json.Codec
set_option autoImplicit false

/-! What a capability orchestrator is asked and what it answers. -/
namespace Switchyard

open Json

structure LoadHints where
  qualityMode : Option String := none
  maxLatencyMs : Option UInt64 := none
  budget : Option Float := none

namespace LoadHints

def toJson (hints : LoadHints) : Json :=
  object (fieldIfSome "quality_mode" .str hints.qualityMode ++
    fieldIfSome "max_latency_ms" ofUInt64 hints.maxLatencyMs ++
    fieldIfSome "budget" ofFloat hints.budget)

def ofJson? (value : Json) : Option LoadHints := do
  guard value.isObject
  return {
    qualityMode := ← value.optional "quality_mode" text?
    maxLatencyMs := ← value.optional "max_latency_ms" uint64?
    budget := ← value.optional "budget" asFloat? }

end LoadHints

structure CapabilityRequest where
  correlationId : String
  userId : Option String := none
  channelId : Option String := none
  content : String
  history : List Json := []
  intents : List String := []
  loadHints : LoadHints := {}

namespace CapabilityRequest

def toJson (request : CapabilityRequest) : Json :=
  object ([("correlation_id", .str request.correlationId)] ++
    fieldIfSome "user_id" .str request.userId ++
    fieldIfSome "channel_id" .str request.channelId ++
    [("content", .str request.content), ("history", .arr request.history),
      ("intents", texts request.intents), ("load_hints", request.loadHints.toJson)])

def ofJson? (value : Json) : Option CapabilityRequest := do
  guard value.isObject
  return {
    correlationId := ← value.required "correlation_id" text?
    userId := ← value.optional "user_id" text?
    channelId := ← value.optional "channel_id" text?
    content := ← value.required "content" text?
    history := ← value.withDefault "history" [] (list? some)
    intents := ← value.withDefault "intents" [] (list? text?)
    loadHints := ← value.withDefault "load_hints" {} LoadHints.ofJson? }

end CapabilityRequest

structure CapabilityDecision where
  selected : List String
  confidence : Float
  quality : Float

namespace CapabilityDecision

def toJson (decision : CapabilityDecision) : Json :=
  object [("selected_capabilities", texts decision.selected),
    ("confidence_prediction", ofFloat decision.confidence),
    ("quality_prediction", ofFloat decision.quality)]

def ofJson? (value : Json) : Option CapabilityDecision := do
  guard value.isObject
  return {
    selected := ← value.required "selected_capabilities" (list? text?)
    confidence := ← value.required "confidence_prediction" asFloat?
    quality := ← value.required "quality_prediction" asFloat? }

end CapabilityDecision

inductive CapabilityError where
  | unavailable (reason : String)
  | rejected (reason : String)
  deriving Repr, DecidableEq

def CapabilityError.kind : CapabilityError → String
  | .unavailable _ => "Unavailable"
  | .rejected _ => "Rejected"

def CapabilityError.message : CapabilityError → String
  | .unavailable reason => "capability orchestrator unavailable: " ++ reason
  | .rejected reason => "capability activation rejected: " ++ reason

/-- An answer and how long it takes to arrive. -/
structure CapabilityReply where
  delayMs : Nat := 0
  outcome : Except CapabilityError CapabilityDecision

end Switchyard
