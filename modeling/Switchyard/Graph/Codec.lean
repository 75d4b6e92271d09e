import Switchyard.Graph.Node
import Switchyard.Json.Codec
set_option autoImplicit false

/-! The written form of nodes and graphs. The behaviour of a decision node is written into the node
itself and told apart by its `kind`. -/
namespace Switchyard

open Json

def DataFlowKind.ofJson? : Json → Option DataFlowKind := name? all name
def ActionType.ofJson? : Json → Option ActionType := name? all name
def DecisionKind.ofJson? : Json → Option DecisionKind := name? all name

namespace CostMetadata

def toJson (metadata : CostMetadata) : Json :=
  object [("latency_ms", ofUInt64 metadata.latencyMs),
    ("reliability", ofFloat metadata.reliability),
    ("resource_cost", ofFloat metadata.resourceCost)]

def ofJson? (value : Json) : Option CostMetadata := do
  guard value.isObject
  return {
    latencyMs := ← value.withDefault "latency_ms" 0 uint64?
    reliability := ← value.withDefault "reliability" 1.0 asFloat?
    resourceCost := ← value.withDefault "resource_cost" 0.0 asFloat? }

end CostMetadata

namespace DataFlowNode

def toJson (node : DataFlowNode) : Json :=
  object ([("id", .str node.id), ("kind", .str node.kind.name),
      ("inputs", texts node.inputs), ("outputs", texts node.outputs)] ++
    (if node.transformations.isEmpty then []
      else [("transformations", ofDict (node.transformations.map fun _ text => .str text))]) ++
    fieldIfSome "success_condition" .str node.successCondition ++
    fieldIfSome "failure_condition" .str node.failureCondition ++
    fieldIfSome "timeout_condition" .str node.timeoutCondition ++
    [("metadata", node.metadata.toJson)])

def ofJson? (value : Json) : Option DataFlowNode := do
  guard value.isObject
  return {
    id := ← value.required "id" text?
    kind := ← value.required "kind" DataFlowKind.ofJson?
    inputs := ← value.withDefault "inputs" [] (list? text?)
    outputs := ← value.withDefault "outputs" [] (list? text?)
    transformations := ← value.withDefault "transformations" Dict.empty (dict? text?)
    successCondition := ← value.optional "success_condition" text?
    failureCondition := ← value.optional "failure_condition" text?
    timeoutCondition := ← value.optional "timeout_condition" text?
    metadata := ← value.withDefault "metadata" {} CostMetadata.ofJson? }

end DataFlowNode

namespace ActionParameter

def toJson (parameter : ActionParameter) : Json :=
  object [("key", .str parameter.key), ("value", parameter.value)]

/-- Null is a value like any other, but the field has to be there. -/
def ofJson? (value : Json) : Option ActionParameter := do
  guard value.isObject
  return {
    key := ← value.required "key" text?
    value := ← value.required "value" fun found => some found.finite }

end ActionParameter

namespace NodeAction

def toJson (action : NodeAction) : Json :=
  object [("type", .str action.type.name), ("target", .str action.target),
    ("parameters", .arr (action.parameters.map ActionParameter.toJson))]

def ofJson? (value : Json) : Option NodeAction := do
  guard value.isObject
  return {
    type := ← value.required "type" ActionType.ofJson?
    target := ← value.required "target" text?
    parameters := ← value.withDefault "parameters" [] (list? ActionParameter.ofJson?) }

end NodeAction

namespace NodeMetadata

def toJson (metadata : NodeMetadata) : Json :=
  object [("priority", .int metadata.priority.toInt),
    ("expected_execution_time_ms", ofUInt64 metadata.expectedMs),
    ("historical_success_rate", ofFloat metadata.successRate)]

def ofJson? (value : Json) : Option NodeMetadata := do
  guard value.isObject
  return {
    priority := ← value.withDefault "priority" 0 int32?
    expectedMs := ← value.withDefault "expected_execution_time_ms" 0 uint64?
    successRate := ← value.withDefault "historical_success_rate" 1.0 asFloat? }

end NodeMetadata

namespace Behavior

def fields : Behavior → List (String × Json)
  | .condition predicate whenTrue whenFalse =>
    [("kind", .str "condition"), ("predicate", .str predicate)] ++
      fieldIfSome "true_next" .str whenTrue ++ fieldIfSome "false_next" .str whenFalse
  | .action work => [("kind", .str "action"), ("action", work.toJson)]
  | .capability work => [("kind", .str "capability"), ("action", work.toJson)]
  | .fallback work => [("kind", .str "fallback"), ("action", work.toJson)]

/-- Only the fields of the node's own kind are looked at. -/
def ofJson? (value : Json) : Option Behavior := do
  match ← value.required "kind" DecisionKind.ofJson? with
  | .condition =>
    return .condition (← value.required "predicate" text?)
      (← value.optional "true_next" text?) (← value.optional "false_next" text?)
  | .action => return .action (← value.required "action" NodeAction.ofJson?)
  | .capability => return .capability (← value.required "action" NodeAction.ofJson?)
  | .fallback => return .fallback (← value.required "action" NodeAction.ofJson?)

end Behavior

namespace DecisionNode

def toJson (node : DecisionNode) : Json :=
  object ([("id", .str node.id)] ++ node.behavior.fields ++
    [("children", texts node.children)] ++ fieldIfSome "parent" .str node.parent ++
    [("metadata", node.metadata.toJson)])

def ofJson? (value : Json) : Option DecisionNode := do
  guard value.isObject
  return {
    id := ← value.required "id" text?
    behavior := ← Behavior.ofJson? value
    children := ← value.withDefault "children" [] (list? text?)
    parent := ← value.optional "parent" text?
    metadata := ← value.withDefault "metadata" {} NodeMetadata.ofJson? }

end DecisionNode

namespace GraphDefinition

def toJson (graph : GraphDefinition) : Json :=
  object [("root", .str graph.root),
    ("data_flow_nodes", .arr (graph.dataFlowNodes.map DataFlowNode.toJson)),
    ("decision_nodes", .arr (graph.decisionNodes.map DecisionNode.toJson))]

def ofJson? (value : Json) : Option GraphDefinition := do
  guard value.isObject
  return {
    root := ← value.required "root" text?
    dataFlowNodes := ← value.withDefault "data_flow_nodes" [] (list? DataFlowNode.ofJson?)
    decisionNodes := ← value.withDefault "decision_nodes" [] (list? DecisionNode.ofJson?) }

end GraphDefinition

end Switchyard
