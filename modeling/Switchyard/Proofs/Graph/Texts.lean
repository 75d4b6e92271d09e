import Mathlib.Tactic.FinCases
import Switchyard.Builtin.Graph
import Switchyard.Proofs.Graph.Codec
import Switchyard.Proofs.Json.RoundTrip
set_option autoImplicit false

/-! Graphs as texts. What is written for a graph can be printed and read again, as long as its
fractional numbers and the values of its parameters can. Main statement:
`GraphDefinition.text_reads`. -/
namespace Switchyard

open Json

structure CostMetadata.Legible (metadata : CostMetadata) : Prop where
  reliability : (Json.float metadata.reliability).Legible
  resourceCost : (Json.float metadata.resourceCost).Legible

theorem CostMetadata.legible_toJson {metadata : CostMetadata} (legible : metadata.Legible) :
    metadata.toJson.Legible :=
  legible_object (by
    simp [legible_ofFloat legible.reliability, legible_ofFloat legible.resourceCost])

theorem DataFlowNode.legible_toJson {node : DataFlowNode} (legible : node.metadata.Legible) :
    node.toJson.Legible := by
  have transformations : (ofDict (node.transformations.map fun _ text => .str text)).Legible := by
    refine legible_ofDict fun key value held => ?_
    rw [Dict.get?_map] at held
    obtain ⟨text, -, rfl⟩ := Option.map_eq_some_iff.mp held
    exact legible_str text
  exact legible_object (by simp [transformations, CostMetadata.legible_toJson legible])

structure NodeAction.Legible (action : NodeAction) : Prop where
  parameters : ∀ parameter ∈ action.parameters, parameter.value.Legible

theorem NodeAction.legible_toJson {action : NodeAction} (legible : action.Legible) :
    action.toJson.Legible := by
  have parameters : (Json.arr (action.parameters.map ActionParameter.toJson)).Legible :=
    legible_map fun parameter inside =>
      legible_object (by simp [legible.parameters parameter inside])
  exact legible_object (by simp [parameters])

theorem Behavior.legible_fields {behavior : Behavior}
    (legible : ∀ work, behavior.action? = some work → work.Legible) :
    Legible.LegibleFields behavior.fields := by
  cases behavior with
  | condition => simp [fields]
  | action | capability | fallback => simp [fields, NodeAction.legible_toJson (legible _ rfl)]

structure DecisionNode.Legible (node : DecisionNode) : Prop where
  action : ∀ work, node.behavior.action? = some work → work.Legible
  successRate : (Json.float node.metadata.successRate).Legible

theorem DecisionNode.legible_toJson {node : DecisionNode} (legible : node.Legible) :
    node.toJson.Legible := by
  have metadata : node.metadata.toJson.Legible :=
    legible_object (by simp [legible_ofFloat legible.successRate])
  have behavior := Behavior.legible_fields legible.action
  exact legible_object (by simp [behavior, metadata])

structure GraphDefinition.Legible (graph : GraphDefinition) : Prop where
  dataFlow : ∀ node ∈ graph.dataFlowNodes, node.metadata.Legible
  decision : ∀ node ∈ graph.decisionNodes, node.Legible

theorem GraphDefinition.legible_toJson {graph : GraphDefinition} (legible : graph.Legible) :
    graph.toJson.Legible := by
  have dataFlow := legible_map fun node inside =>
    DataFlowNode.legible_toJson (legible.dataFlow node inside)
  have decision := legible_map fun node inside =>
    DecisionNode.legible_toJson (legible.decision node inside)
  exact legible_object (by simp [dataFlow, decision])

/-- Graphs survive being printed and read again. -/
theorem GraphDefinition.text_reads :
    TextSurvives GraphDefinition.toJson GraphDefinition.ofJson?
      fun graph => graph.Written ∧ graph.Legible :=
  .of_reads (fun both => ofJson?_toJson both.1) fun both => legible_toJson both.2

theorem DecisionNode.written_and_legible {node : DecisionNode}
    (rate : node.metadata.successRate = 1.0)
    (texts : ∀ work, node.behavior.action? = some work →
      ∀ parameter ∈ work.parameters, ∃ text, parameter.value = .str text) :
    node.Written ∧ node.Legible := by
  refine ⟨⟨⟨fun work runs => ⟨fun parameter listed => ⟨?_⟩⟩⟩, ⟨by rw [rate]; rfl⟩⟩,
    ⟨fun work runs => ⟨fun parameter listed => ?_⟩, by rw [rate]; exact legible_one⟩⟩
  all_goals
    obtain ⟨text, same⟩ := texts work runs parameter listed
    rw [same]
  · rfl
  · exact legible_str text

/-- So does the graph that is used when no other is given: all its numbers are zero or one, and all
its parameters are texts. -/
theorem Builtin.graph_text_reads (level : Nat) :
    (ofText? (graph.toJson.indented level)).bind GraphDefinition.ofJson? = some graph := by
  have dataFlow : ∀ node ∈ dataFlowNodes, node.metadata.Written ∧ node.metadata.Legible := by
    intro node inside
    simp only [dataFlowNodes] at inside
    fin_cases inside <;> exact ⟨⟨rfl, rfl⟩, ⟨legible_one, legible_zero⟩⟩
  have decision : ∀ node ∈ decisionNodes, node.Written ∧ node.Legible := by
    intro node inside
    simp only [decisionNodes] at inside
    refine DecisionNode.written_and_legible ?_ ?_ <;> fin_cases inside <;> simp [Behavior.action?]
  exact GraphDefinition.text_reads.indented level graph
    ⟨⟨fun node inside => (dataFlow node inside).1, fun node inside => (decision node inside).1⟩,
      ⟨fun node inside => (dataFlow node inside).2, fun node inside => (decision node inside).2⟩⟩

end Switchyard
