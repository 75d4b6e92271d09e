import Switchyard.Graph.Codec
import Switchyard.Proofs.Json.Sound
set_option autoImplicit false

/-! Graphs survive being written down. Main statement: `GraphDefinition.ofJson?_toJson`, for every
graph without numbers that have no written form, as every graph is that has been read
(`GraphDefinition.written_of_ofJson?`). -/
namespace Switchyard

open Json

/-! Names. -/

theorem DataFlowKind.name_injective : Function.Injective name := by
  intro first second same
  cases first <;> cases second <;> first | rfl | exact absurd same (by decide)

@[simp] theorem DataFlowKind.ofJson?_name (kind : DataFlowKind) :
    ofJson? (.str kind.name) = some kind :=
  name?_str name_injective (by cases kind <;> decide)

theorem ActionType.name_injective : Function.Injective name := by
  intro first second same
  cases first <;> cases second <;> first | rfl | exact absurd same (by decide)

@[simp] theorem ActionType.ofJson?_name (type : ActionType) :
    ofJson? (.str type.name) = some type :=
  name?_str name_injective (by cases type <;> decide)

theorem DecisionKind.name_injective : Function.Injective name := by
  intro first second same
  cases first <;> cases second <;> first | rfl | exact absurd same (by decide)

@[simp] theorem DecisionKind.ofJson?_name (kind : DecisionKind) :
    ofJson? (.str kind.name) = some kind :=
  name?_str name_injective (by cases kind <;> decide)

/-! Nodes whose numbers all have a written form. -/

structure CostMetadata.Written (metadata : CostMetadata) : Prop where
  reliability : metadata.reliability.isFinite = true
  resourceCost : metadata.resourceCost.isFinite = true

theorem CostMetadata.ofJson?_toJson {metadata : CostMetadata} (written : metadata.Written) :
    ofJson? metadata.toJson = some metadata := by
  simp [toJson, ofJson?, withDefault, asFloat?_ofFloat written.reliability,
    asFloat?_ofFloat written.resourceCost]

theorem DataFlowNode.ofJson?_toJson {node : DataFlowNode} (written : node.metadata.Written) :
    ofJson? node.toJson = some node := by
  have transformations : node.toJson.withDefault "transformations" Dict.empty (dict? text?) =
      some node.transformations := by
    by_cases none : node.transformations.isEmpty
    · have same : Dict.empty = node.transformations :=
        Dict.ext_entries (List.isEmpty_iff.mp none).symm
      rw [withDefault_missing (by simp [toJson, none]), same]
    · have found : node.toJson.field? "transformations" =
          some (ofDict (node.transformations.map fun _ text => .str text)) := by
        simp [toJson, none]
      exact withDefault_eq found (dict?_ofDict_map text?_str)
  have success : node.toJson.optional "success_condition" text? = some node.successCondition :=
    optional_text (by simp [toJson])
  have failure : node.toJson.optional "failure_condition" text? = some node.failureCondition :=
    optional_text (by simp [toJson])
  have timeout : node.toJson.optional "timeout_condition" text? = some node.timeoutCondition :=
    optional_text (by simp [toJson])
  have metadata := CostMetadata.ofJson?_toJson written
  rw [ofJson?, transformations, success, failure, timeout]
  simp [toJson, required, withDefault, metadata]

structure ActionParameter.Written (parameter : ActionParameter) : Prop where
  value : parameter.value.finite = parameter.value

theorem ActionParameter.ofJson?_toJson {parameter : ActionParameter}
    (written : parameter.Written) : ofJson? parameter.toJson = some parameter := by
  simp [toJson, ofJson?, required, written.value]

structure NodeAction.Written (action : NodeAction) : Prop where
  parameters : ∀ parameter ∈ action.parameters, parameter.Written

theorem NodeAction.ofJson?_toJson {action : NodeAction} (written : action.Written) :
    ofJson? action.toJson = some action := by
  have parameters := list?_map fun parameter inside =>
    ActionParameter.ofJson?_toJson (written.parameters parameter inside)
  simp [toJson, ofJson?, required, withDefault, parameters]

structure NodeMetadata.Written (metadata : NodeMetadata) : Prop where
  successRate : metadata.successRate.isFinite = true

theorem NodeMetadata.ofJson?_toJson {metadata : NodeMetadata} (written : metadata.Written) :
    ofJson? metadata.toJson = some metadata := by
  simp [toJson, ofJson?, withDefault, asFloat?_ofFloat written.successRate]

/-- The keys that a node's behaviour is written under, whichever its kind is. -/
def Behavior.keys : List String := ["kind", "predicate", "true_next", "false_next", "action"]

theorem Behavior.field?_fields_eq_none (behavior : Behavior) {key : String}
    (foreign : key ∉ keys) : (object behavior.fields).field? key = none := by
  simp only [keys, List.mem_cons, List.not_mem_nil, or_false, not_or] at foreign
  obtain ⟨kind, predicate, whenTrue, whenFalse, action⟩ := foreign
  cases behavior with
  | condition =>
    simp [fields, Ne.symm kind, Ne.symm predicate, Ne.symm whenTrue, Ne.symm whenFalse]
  | action | capability | fallback => simp [fields, Ne.symm kind, Ne.symm action]

structure Behavior.Written (behavior : Behavior) : Prop where
  action : ∀ work, behavior.action? = some work → work.Written

theorem Behavior.field?_kind (behavior : Behavior) :
    (object behavior.fields).field? "kind" = some (.str behavior.kind.name) := by
  cases behavior <;> simp [fields, kind, DecisionKind.name]

theorem Behavior.field?_action {behavior : Behavior} {work : NodeAction}
    (runs : behavior.action? = some work) :
    (object behavior.fields).field? "action" = some work.toJson := by
  cases behavior with
  | condition => cases runs
  | action | capability | fallback =>
    obtain rfl := Option.some.inj runs
    simp [fields]

theorem Behavior.ofJson?_of_fields {behavior : Behavior} (written : behavior.Written) {value : Json}
    (same : ∀ key ∈ keys, value.field? key = (object behavior.fields).field? key) :
    ofJson? value = some behavior := by
  have kind := required_eq ((same "kind" (by decide)).trans behavior.field?_kind)
    (DecisionKind.ofJson?_name behavior.kind)
  rw [ofJson?, kind]
  cases behavior with
  | condition predicate whenTrue whenFalse =>
    have text : value.field? "predicate" = some (.str predicate) := by
      rw [same "predicate" (by decide)]
      simp [fields]
    have yes : value.field? "true_next" = whenTrue.map .str := by
      rw [same "true_next" (by decide)]
      simp [fields]
    have no : value.field? "false_next" = whenFalse.map .str := by
      rw [same "false_next" (by decide)]
      simp [fields]
    simp only [Behavior.kind, required_eq text (text?_str predicate), optional_text yes,
      optional_text no]
    rfl
  | action work | capability work | fallback work =>
    have action := required_eq ((same "action" (by decide)).trans (field?_action rfl))
      (NodeAction.ofJson?_toJson (written.action work rfl))
    simp only [Behavior.kind, action]
    rfl

structure DecisionNode.Written (node : DecisionNode) : Prop where
  behavior : node.behavior.Written
  metadata : node.metadata.Written

/-- The behaviour shares its object with the other fields of the node, but no key with them. -/
theorem DecisionNode.ofJson?_toJson {node : DecisionNode} (written : node.Written) :
    ofJson? node.toJson = some node := by
  have behavior : Behavior.ofJson? node.toJson = some node.behavior := by
    refine Behavior.ofJson?_of_fields written.behavior fun key own => ?_
    simp only [Behavior.keys, List.mem_cons, List.not_mem_nil, or_false] at own
    rcases own with rfl | rfl | rfl | rfl | rfl <;> simp [toJson]
  have foreign : ∀ key, key ∉ Behavior.keys → (object node.behavior.fields).field? key = none :=
    fun key => node.behavior.field?_fields_eq_none
  have id := foreign "id" (by decide)
  have children := foreign "children" (by decide)
  have parent : node.toJson.optional "parent" text? = some node.parent :=
    optional_text (by simp [toJson, foreign "parent" (by decide)])
  have metadata := NodeMetadata.ofJson?_toJson written.metadata
  rw [ofJson?, behavior, parent]
  simp [toJson, required, withDefault, id, children, metadata]

structure GraphDefinition.Written (graph : GraphDefinition) : Prop where
  dataFlow : ∀ node ∈ graph.dataFlowNodes, node.metadata.Written
  decision : ∀ node ∈ graph.decisionNodes, node.Written

theorem GraphDefinition.ofJson?_toJson {graph : GraphDefinition} (written : graph.Written) :
    ofJson? graph.toJson = some graph := by
  have dataFlow := list?_map fun node inside =>
    DataFlowNode.ofJson?_toJson (written.dataFlow node inside)
  have decision := list?_map fun node inside =>
    DecisionNode.ofJson?_toJson (written.decision node inside)
  simp [toJson, ofJson?, required, withDefault, dataFlow, decision]

/-! What is read can be written. -/

theorem CostMetadata.written_default : CostMetadata.Written {} where
  reliability := by rfl
  resourceCost := by rfl

theorem CostMetadata.written_of_ofJson? {value : Json} (sound : value.Sound)
    {metadata : CostMetadata} (read : ofJson? value = some metadata) : metadata.Written := by
  simp only [ofJson?, Option.bind_eq_bind, Option.bind_eq_some_iff, Option.pure_def,
    Option.some.injEq] at read
  obtain ⟨-, -, latency, -, reliability, isReliability, cost, isCost, rfl⟩ := read
  exact ⟨sound.withDefault_float rfl isReliability, sound.withDefault_float rfl isCost⟩

theorem DataFlowNode.written_of_ofJson? {value : Json} (sound : value.Sound)
    {node : DataFlowNode} (read : ofJson? value = some node) : node.metadata.Written := by
  simp only [ofJson?, Option.bind_eq_bind, Option.bind_eq_some_iff, Option.pure_def,
    Option.some.injEq] at read
  obtain ⟨-, -, id, -, kind, -, inputs, -, outputs, -, changes, -, success, -, failure, -, timeout,
    -, metadata, isMetadata, rfl⟩ := read
  exact sound.withDefault CostMetadata.written_default
    (fun sound same => CostMetadata.written_of_ofJson? sound same) isMetadata

theorem ActionParameter.written_of_ofJson? {value : Json} {parameter : ActionParameter}
    (read : ofJson? value = some parameter) : parameter.Written := by
  simp only [ofJson?, Option.bind_eq_bind, Option.bind_eq_some_iff, Option.pure_def,
    Option.some.injEq] at read
  obtain ⟨-, -, key, -, held, isHeld, rfl⟩ := read
  obtain ⟨found, -, same⟩ := exists_of_required isHeld
  obtain rfl := Option.some.inj same
  exact ⟨found.finite_finite⟩

theorem NodeAction.written_of_ofJson? {value : Json} (sound : value.Sound) {action : NodeAction}
    (read : ofJson? value = some action) : action.Written := by
  simp only [ofJson?, Option.bind_eq_bind, Option.bind_eq_some_iff, Option.pure_def,
    Option.some.injEq] at read
  obtain ⟨-, -, type, -, target, -, parameters, isParameters, rfl⟩ := read
  exact ⟨sound.withDefault_list
    (fun _ same => ActionParameter.written_of_ofJson? same) isParameters⟩

theorem NodeMetadata.written_default : NodeMetadata.Written {} where
  successRate := by rfl

theorem NodeMetadata.written_of_ofJson? {value : Json} (sound : value.Sound)
    {metadata : NodeMetadata} (read : ofJson? value = some metadata) : metadata.Written := by
  simp only [ofJson?, Option.bind_eq_bind, Option.bind_eq_some_iff, Option.pure_def,
    Option.some.injEq] at read
  obtain ⟨-, -, priority, -, expected, -, rate, isRate, rfl⟩ := read
  exact ⟨sound.withDefault_float rfl isRate⟩

theorem Behavior.written_of_ofJson? {value : Json} (sound : value.Sound) {behavior : Behavior}
    (read : ofJson? value = some behavior) : behavior.Written := by
  have written : ∀ {work}, value.required "action" NodeAction.ofJson? = some work →
      work.Written := by
    intro work isWork
    obtain ⟨found, here, isFound⟩ := exists_of_required isWork
    exact NodeAction.written_of_ofJson? (sound.field here) isFound
  constructor
  intro work isAction
  simp only [ofJson?, Option.bind_eq_bind, Option.bind_eq_some_iff, Option.pure_def] at read
  obtain ⟨kind, -, isBehavior⟩ := read
  cases kind with
  | condition =>
    simp only [Option.bind_eq_some_iff, Option.some.injEq] at isBehavior
    obtain ⟨predicate, -, yes, -, no, -, rfl⟩ := isBehavior
    cases isAction
  | action | capability | fallback =>
    simp only [Option.bind_eq_some_iff, Option.some.injEq] at isBehavior
    obtain ⟨same, isWork, rfl⟩ := isBehavior
    obtain rfl := Option.some.inj isAction
    exact written isWork

theorem DecisionNode.written_of_ofJson? {value : Json} (sound : value.Sound) {node : DecisionNode}
    (read : ofJson? value = some node) : node.Written := by
  simp only [ofJson?, Option.bind_eq_bind, Option.bind_eq_some_iff, Option.pure_def,
    Option.some.injEq] at read
  obtain ⟨-, -, id, -, behavior, isBehavior, children, -, parent, -, metadata, isMetadata,
    rfl⟩ := read
  refine ⟨Behavior.written_of_ofJson? sound isBehavior, ?_⟩
  exact sound.withDefault NodeMetadata.written_default
    (fun sound same => NodeMetadata.written_of_ofJson? sound same) isMetadata

theorem GraphDefinition.written_of_ofJson? {value : Json} (sound : value.Sound)
    {graph : GraphDefinition} (read : ofJson? value = some graph) : graph.Written := by
  simp only [ofJson?, Option.bind_eq_bind, Option.bind_eq_some_iff, Option.pure_def,
    Option.some.injEq] at read
  obtain ⟨-, -, root, -, dataFlow, isDataFlow, decision, isDecision, rfl⟩ := read
  constructor
  · exact sound.withDefault_list
      (fun sound same => DataFlowNode.written_of_ofJson? sound same) isDataFlow
  · exact sound.withDefault_list
      (fun sound same => DecisionNode.written_of_ofJson? sound same) isDecision

end Switchyard
