import Switchyard.Builtin.Leaves
import Switchyard.Condition
import Switchyard.Registry.Basic
set_option autoImplicit false

/-! The graph that is used when no other is given. -/
namespace Switchyard.Builtin

def root : String := "orchestration-enabled"

def dataFlowNodes : List DataFlowNode := [
  { id := inputAnalysis, kind := .processor, inputs := [Context.Key.content],
    outputs := [Context.Key.analyzedMessage, Context.Key.complexityScore, Context.Key.intents],
    metadata := { latencyMs := 50 } },
  { id := contextEnrichment, kind := .processor,
    inputs := [Context.Key.analyzedMessage, Context.Key.history],
    outputs := ["enrichedContext"], metadata := { latencyMs := 30 } },
  { id := responseGenerator, kind := .output, inputs := [Context.Key.analyzedMessage],
    outputs := [Context.Key.finalResponse], metadata := { latencyMs := 200 } },
  { id := fallbackResponse, kind := .fallback, outputs := [Context.Key.finalResponse],
    metadata := { latencyMs := 5 } }]

def decisionNodes : List DecisionNode := [
  { id := root,
    behavior := .condition Condition.orchestrationEnabled (some "context-analysis")
      (some "legacy-fallback") },
  { id := "context-analysis", behavior := .action ⟨.activate, inputAnalysis, []⟩,
    children := ["enrich-context", "complexity-check"], parent := some root,
    metadata := { expectedMs := 100 } },
  { id := "enrich-context", behavior := .action ⟨.activate, contextEnrichment, []⟩,
    parent := some "context-analysis", metadata := { expectedMs := 100 } },
  { id := "complexity-check",
    behavior := .condition Condition.complexityHigh (some "enhanced-processing")
      (some "standard-processing"),
    parent := some "context-analysis" },
  { id := "enhanced-processing",
    behavior := .capability ⟨.configure, "reasoning", [⟨"quality_mode", .str "enhanced"⟩]⟩,
    children := ["enhanced-response"], parent := some "complexity-check",
    metadata := { expectedMs := 5000 } },
  { id := "enhanced-response",
    behavior := .action ⟨.activate, responseGenerator, [⟨"style", .str "detailed"⟩]⟩,
    parent := some "enhanced-processing", metadata := { expectedMs := 500 } },
  { id := "standard-processing",
    behavior := .action ⟨.activate, responseGenerator,
      [⟨"style", .str "concise"⟩, ⟨"quality_mode", .str "standard"⟩]⟩,
    parent := some "complexity-check", metadata := { expectedMs := 500 } },
  { id := "legacy-fallback", behavior := .fallback ⟨.fallback, fallbackResponse, []⟩,
    parent := some root, metadata := { expectedMs := 50 } }]

def graph : GraphDefinition := ⟨root, dataFlowNodes, decisionNodes⟩

def registry : Except RegistryError Registry := Registry.ofDefinition graph

end Switchyard.Builtin
