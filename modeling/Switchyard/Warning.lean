import Switchyard.Context
import Switchyard.Text.Listing
import Switchyard.Verbosity
set_option autoImplicit false

/-! What a run reports beside its results: warnings and errors, each with the values it is about. -/
namespace Switchyard

inductive Warning where
  | oversizedValue (key : String) (size : Nat)
  | unknownPredicate (predicate correlationId : String)
  | cyclicGraph (root : String)
  | missingInputs (nodeId correlationId : String) (missing : List String)
  | unresolvedAction (nodeId target : String)
  | unresolvedFallback (target : String)
  | cycleMet (correlationId nodeId : String)
  | walkFailed (correlationId error strategy : String)
  | legacyFailedAfterWalk (correlationId error : String)
  | legacyFailed (correlationId error : String)
  | requestReplaced
  | requestFailed (error : String)
  | timeoutNotPositive (used : UInt64)
  | thresholdOutOfRange (threshold used : Float)
  | unreadableSettings
  | malformedSettings

namespace Warning

def level : Warning → Level
  | .legacyFailedAfterWalk .. | .legacyFailed .. | .requestFailed _ => .error
  | _ => .warn

def message : Warning → String
  | .oversizedValue .. => "context value exceeds size limit, truncating"
  | .unknownPredicate .. => "unknown predicate, defaulting to false"
  | .cyclicGraph _ => "decision graph contains a cycle; affected walks will abort at runtime"
  | .missingInputs .. => "data-flow node is missing declared inputs"
  | .unresolvedAction .. =>
    "action target does not resolve to a data-flow node, passing context through"
  | .unresolvedFallback _ => "fallback target does not resolve, returning apology"
  | .cycleMet .. => "cycle detected, aborting walk"
  | .walkFailed .. => "graph walk failed"
  | .legacyFailedAfterWalk .. => "legacy path failed after graph failure, returning apology"
  | .legacyFailed .. => "legacy path failed, returning apology"
  | .requestReplaced => "correlation id already in flight, cancelling the earlier request"
  | .requestFailed _ => "request failed"
  | .timeoutNotPositive used => "capability_timeout_ms must be positive, using " ++ toString used
  | .thresholdOutOfRange threshold used =>
    "complexity_threshold " ++ Decimal.Layout.prose.write threshold ++ " outside [0, 1], using " ++
      Decimal.Layout.prose.write used
  | .unreadableSettings => "Failed to read"
  | .malformedSettings => "Failed to parse"

def fields : Warning → List (String × Json)
  | .oversizedValue key size =>
    [("key", .str key), ("size", .int size), ("max", .int Context.sizeLimit)]
  | .unknownPredicate predicate correlationId =>
    [("predicate", .str predicate), ("correlation_id", .str correlationId)]
  | .cyclicGraph root => [("root", .str root)]
  | .missingInputs nodeId correlationId missing =>
    [("node_id", .str nodeId), ("correlation_id", .str correlationId),
      ("missing", .str (Text.listing missing))]
  | .unresolvedAction nodeId target => [("node_id", .str nodeId), ("target", .str target)]
  | .unresolvedFallback target => [("target", .str target)]
  | .cycleMet correlationId nodeId =>
    [("correlation_id", .str correlationId), ("node_id", .str nodeId)]
  | .walkFailed correlationId error strategy =>
    [("correlation_id", .str correlationId), ("error", .str error), ("strategy", .str strategy)]
  | .legacyFailedAfterWalk correlationId error | .legacyFailed correlationId error =>
    [("correlation_id", .str correlationId), ("error", .str error)]
  | .requestFailed error => [("error", .str error)]
  | _ => []

def toJson (warning : Warning) : Json :=
  .arr [.str warning.level.name, .str warning.message, Json.object warning.fields]

def line (warning : Warning) : String :=
  let fields := warning.fields.map fun field => " " ++ field.1 ++ "=" ++ field.2.compact
  warning.level.name ++ " " ++ warning.message ++ String.join fields

def ofSet (key : String) (value : Json) : List Warning :=
  if Context.sizeLimit < value.size then [.oversizedValue key value.size] else []

def ofSetAll (entries : List (String × Json)) : List Warning :=
  entries.flatMap fun entry => ofSet entry.1 entry.2

def ofRequest (correlationId : String) (input : Json) (caller : Dict Json) : List Warning :=
  ofSetAll (Context.inputEntries input) ++
    ofSetAll ((Context.ofInput correlationId input).missingEntries caller)

end Warning

end Switchyard
