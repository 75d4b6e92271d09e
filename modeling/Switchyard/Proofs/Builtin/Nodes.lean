import Switchyard.CommandLine.Run
import Switchyard.Proofs.Execution.Delivery
import Switchyard.Proofs.Execution.Footprints
set_option autoImplicit false

/-! The nodes of the built-in graph, one by one: what each of them leaves and where it goes on,
whatever the context it is given. -/
namespace Switchyard.Builtin

def frozen : Registry where
  dataFlow := Dict.ofList (dataFlowNodes.map fun node => (node.id, node))
  decision := Dict.ofList (decisionNodes.map fun node => (node.id, node))
  root := root
  hasCycle := false

theorem registry_eq : registry = .ok frozen := by rfl

/-- The engine on the built-in graph with the orchestrator that it is run with and any legacy
path. -/
def engineWith (settings : Settings) (legacy : LegacyPath) : Engine :=
  Engine.new settings frozen (Condition.builtin settings.complexityThreshold) handlers
    CommandLine.capability legacy

theorem withBuiltinGraph_eq_engineWith (settings : Settings) (legacy : LegacyPath) :
    Engine.withBuiltinGraph settings CommandLine.capability legacy =
      .ok (engineWith settings legacy) := by
  rw [Engine.withBuiltinGraph, registry_eq]
  rfl

def engine (settings : Settings) : Engine :=
  Engine.new settings frozen (Condition.builtin settings.complexityThreshold) handlers
    CommandLine.capability TemplateLegacy.respond

theorem withBuiltinGraph_eq (settings : Settings) :
    Engine.withBuiltinGraph settings CommandLine.capability TemplateLegacy.respond =
      .ok (engine settings) :=
  withBuiltinGraph_eq_engineWith settings TemplateLegacy.respond

abbrev executor (settings : Settings) : Executor := (engine settings).controller.executor

variable {settings : Settings} {context : Context} {node : DecisionNode} {action : NodeAction}

/-! Conditions. -/

/-- What a condition with a known predicate says about its result. -/
def verdict (name : String) (result : Bool) : DecisionOutcome :=
  ⟨name, result, "predicate '" ++ name ++ "' evaluated to " ++ toString result⟩

theorem get?_builtin (threshold : Float) :
    (Condition.builtin threshold).get? Condition.orchestrationEnabled = some Condition.isEnabled ∧
      (Condition.builtin threshold).get? Condition.complexityHigh =
        some (Condition.isComplex threshold) := by
  simp [Condition.builtin, Dict.ofList, Dict.get?_insert, Condition.orchestrationEnabled,
    Condition.complexityHigh, Condition.contentIsQuestion, Condition.historyPresent]

section Conditions

variable {name whenTrue whenFalse : String} {predicate : Predicate}

theorem evaluate_registered {predicates : Dict Predicate}
    (registered : predicates.get? name = some predicate) (context : Context) :
    Condition.evaluate predicates name context =
      ⟨predicate context, (verdict name (predicate context)).reasoning⟩ := by
  rw [Condition.evaluate, registered]
  rfl

theorem outcome_condition
    (behavior : node.behavior = .condition name (some whenTrue) (some whenFalse))
    (registered : (Condition.builtin settings.complexityThreshold).get? name = some predicate)
    (context : Context) :
    (executor settings).outcome false node context =
      .ok ⟨context, [if predicate context then whenTrue else whenFalse]⟩ := by
  have evaluated : Condition.evaluate (executor settings).predicates name context =
      ⟨predicate context, _⟩ := evaluate_registered registered context
  rw [Executor.outcome_condition behavior, evaluated]
  cases predicate context <;> rfl

theorem footprints_condition
    (behavior : node.behavior = .condition name (some whenTrue) (some whenFalse))
    (registered : (Condition.builtin settings.complexityThreshold).get? name = some predicate)
    (context : Context) :
    (executor settings).footprints false node context =
      [.visited node.id (some (verdict name (predicate context))) []] := by
  have evaluated : Condition.evaluate (executor settings).predicates name context =
      ⟨predicate context, _⟩ := evaluate_registered registered context
  rw [Executor.footprints_condition behavior, evaluated]
  rfl

end Conditions

/-! Leaves. -/

section Leaves

variable {leaf : DataFlowNode} {answer : Context → Except LeafError (Dict Json)}

theorem outcome_leaf (behavior : node.behavior = .action action)
    (resolved : frozen.dataFlow? action.target = some leaf)
    (handled : handlers.get? leaf.id = some (immediate answer)) (context : Context) :
    (executor settings).outcome false node context =
      match answer (withParameters action context) with
      | .ok outputs => .ok ⟨contextAfterLeaf action leaf outputs context, node.children⟩
      | .error error => .error (.leaf error) := by
  have replies : ((executor settings).leaves.reply leaf (withParameters action context)).outcome =
      answer (withParameters action context) := by
    have registered : (executor settings).leaves.handlers.get? leaf.id =
        some (immediate answer) := handled
    rw [Leaves.reply, registered]
    rfl
  rw [Executor.outcome_action behavior resolved, Executor.leafResult, replies]
  cases answer (withParameters action context) <;> rfl

theorem footprints_leaf (behavior : node.behavior = .action action)
    (resolved : frozen.dataFlow? action.target = some leaf) (context : Context) :
    (executor settings).footprints false node context =
      [.visited node.id none
        (NodeError.listed ((executor settings).outcome false node context))] :=
  Executor.footprints_action behavior resolved false

end Leaves

/-! Capabilities. -/

section Capabilities

variable {decision : CapabilityDecision}

theorem choice?_capability
    (decides : Heuristic.decide (capabilityRequest node action context) = .ok decision) :
    (executor settings).choice? (.capability (capabilityRequest node action context) context) =
      some decision := by
  have inTime : ¬ settings.capabilityTimeoutMs.toNat < 0 := Nat.not_lt_zero _
  unfold Executor.choice?
  change (if settings.capabilityTimeoutMs.toNat < 0 then none
    else (Heuristic.decide (capabilityRequest node action context)).toOption) = _
  rw [if_neg inTime, decides]
  rfl

theorem outcome_capability (behavior : node.behavior = .capability action)
    (decides : Heuristic.decide (capabilityRequest node action context) = .ok decision) :
    (executor settings).outcome false node context =
      .ok ⟨context.set Context.Key.capabilityResult decision.toJson, node.children⟩ := by
  have inTime : ¬ settings.capabilityTimeoutMs.toNat < 0 := Nat.not_lt_zero _
  have answered : (executor settings).capabilityResult (capabilityRequest node action context)
      context = .ok (context.set Context.Key.capabilityResult decision.toJson) := by
    have decided : ((executor settings).capability (capabilityRequest node action context)).outcome =
        .ok decision := decides
    unfold Executor.capabilityResult
    rw [decided]
    exact if_neg inTime
  rw [Executor.outcome_capability behavior, answered]
  rfl

theorem footprints_capability (behavior : node.behavior = .capability action)
    (decides : Heuristic.decide (capabilityRequest node action context) = .ok decision) :
    (executor settings).footprints false node context =
      [.chose decision, .visited node.id none []] := by
  rw [Executor.footprints_capability behavior, choice?_capability decides,
    outcome_capability behavior decides]
  rfl

end Capabilities

end Switchyard.Builtin
