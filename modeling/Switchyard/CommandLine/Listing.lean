import Switchyard.Decimal.Text
import Switchyard.Outcome
import Switchyard.Registry.Basic
import Switchyard.Text.Grid
import Switchyard.Trace.Record
set_option autoImplicit false

/-! What commands print for people: the answer to a message, the trace behind it, and a graph. -/
namespace Switchyard.CommandLine

/-- What stands where a branch ends. -/
def branchEnd : String := "(end)"

def describeWork (node : DecisionNode) : String :=
  match node.behavior with
  | .condition predicate _ _ => "if " ++ predicate
  | .action work | .capability work | .fallback work => work.describe " "

def describeNext (node : DecisionNode) : String :=
  match node.behavior with
  | .condition _ whenTrue whenFalse =>
    "true → " ++ whenTrue.getD branchEnd ++ ", false → " ++ whenFalse.getD branchEnd
  | _ => if node.children.isEmpty then branchEnd else ", ".intercalate node.children

def decisionGrid (registry : Registry) : Text.Grid where
  header := ["Decision node", "Kind", "Does", "Next"]
  rows := registry.decision.values.map fun node =>
    [if node.id = registry.root then node.id ++ " (root)" else node.id, node.kind.name,
      describeWork node, describeNext node]

def dataFlowGrid (registry : Registry) : Text.Grid where
  header := ["Data-flow node", "Inputs", "Outputs", "Latency hint"]
  rows := registry.dataFlow.values.map fun node =>
    [node.id, ", ".intercalate node.inputs, ", ".intercalate node.outputs,
      toString node.metadata.latencyMs ++ " ms"]

/-- A graph and where it came from. -/
def graphLines (registry : Registry) (origin : String) : List String :=
  ["", "  ⚡ Graph rooted at " ++ registry.root ++ " (" ++ origin ++ ")"] ++
    (if registry.hasCycle then ["  warning: the decision graph contains a cycle"] else []) ++
    [""] ++ (decisionGrid registry).lines ++ (dataFlowGrid registry).lines ++ [""]

def complexityOf (result : OrchestrationResult) : Option Float :=
  (result.context.bind fun values => values.get? Context.Key.complexityScore).bind Json.asFloat?

def resultLines (result : OrchestrationResult) : List String :=
  ["", "  " ++ result.response, "", "  source: " ++ result.source.name] ++
    (if result.fallback then ["  fallback: yes"] else []) ++
    ["  correlation id: " ++ result.correlationId] ++
    ((complexityOf result).map fun score => "  complexity: " ++ Decimal.fixed 3 score).toList ++
    [""]

def traceGrid (records : List TraceRecord) : Text.Grid where
  header := ["#", "Node", "Kind", "Action", "Latency", "Next"]
  rows := records.zipIdx.map fun (record, index) =>
    [toString (index + 1), if record.isError then "✗ " ++ record.nodeId else record.nodeId,
      record.nodeKind.name,
      match record.decision with
      | some decision => record.action ++ " → " ++ toString decision.result
      | none => record.action,
      toString record.performance.latencyMs ++ " ms",
      if record.isError then "; ".intercalate record.errors else ", ".intercalate record.nextNodes]

def traceLines (records : List TraceRecord) : List String :=
  if records.isEmpty then ["  No trace records (legacy path).", ""]
  else (traceGrid records).lines ++ [""]

end Switchyard.CommandLine
