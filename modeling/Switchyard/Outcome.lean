import Switchyard.Timestamp
set_option autoImplicit false

/-! What a request ends with: an answer found on the graph, the answer of the legacy path, or an
apology. -/
namespace Switchyard

open Json

def apologyText : String :=
  "I apologize, but I'm having trouble processing your request right now. " ++
    "Please try again in a moment."

inductive ResultSource where
  | graph
  | legacy
  | apology
  deriving Repr, DecidableEq

namespace ResultSource

def all : List ResultSource := [.graph, .legacy, .apology]

def name : ResultSource → String
  | .graph => "graph"
  | .legacy => "legacy"
  | .apology => "apology"

def ofJson? : Json → Option ResultSource := name? all name

end ResultSource

structure LegacyResult where
  response : String
  legacy : Bool := true
  timestamp : Timestamp

namespace LegacyResult

def toJson (result : LegacyResult) : Json :=
  object [("response", .str result.response), ("legacy", .bool result.legacy),
    ("timestamp", result.timestamp.toJson)]

def ofJson? (value : Json) : Option LegacyResult := do
  guard value.isObject
  return {
    response := ← value.required "response" text?
    legacy := ← value.required "legacy" asBool?
    timestamp := ← value.required "timestamp" Timestamp.ofJson? }

end LegacyResult

structure OrchestrationResult where
  correlationId : String
  response : String
  source : ResultSource
  fallback : Bool
  context : Option (Dict Json) := none
  timestamp : Timestamp

namespace OrchestrationResult

def apology (correlationId : String) (now : Timestamp) : OrchestrationResult :=
  ⟨correlationId, apologyText, .apology, true, none, now⟩

def ofLegacy (correlationId : String) (legacy : LegacyResult) : OrchestrationResult :=
  ⟨correlationId, legacy.response, .legacy, false, none, legacy.timestamp⟩

def isLegacy (result : OrchestrationResult) : Bool := result.source = .legacy

def toJson (result : OrchestrationResult) : Json :=
  object ([("correlation_id", .str result.correlationId), ("response", .str result.response),
      ("source", .str result.source.name), ("fallback", .bool result.fallback)] ++
    fieldIfSome "context" ofDict result.context ++
    [("timestamp", result.timestamp.toJson)])

def ofJson? (value : Json) : Option OrchestrationResult := do
  guard value.isObject
  return {
    correlationId := ← value.required "correlation_id" text?
    response := ← value.required "response" text?
    source := ← value.required "source" ResultSource.ofJson?
    fallback := ← value.required "fallback" asBool?
    context := ← value.optional "context" asDict?
    timestamp := ← value.required "timestamp" Timestamp.ofJson? }

end OrchestrationResult

end Switchyard
