import Switchyard.Proofs.Graph.Codec
import Switchyard.Proofs.Registry.Accepted
set_option autoImplicit false

/-! Graphs that leave the program and come back. Main statement: `GraphDefinition.survives_export`,
a graph reads back from what is written for it, and the registry that it gives is built again from
its own export. -/
namespace Switchyard

namespace RegistryBuilder

/-- Registering the nodes of a map in the order of their ids fills an empty map with them. -/
theorem foldlM_values {α : Type}
    {register : RegistryBuilder → α → Except RegistryError RegistryBuilder} {id : α → String}
    {holding : Dict α → RegistryBuilder}
    (adds : ∀ dict node, dict.contains (id node) = false →
      register (holding dict) node = .ok (holding (dict.insert (id node) node)))
    {dict : Dict α} (keyed : ∀ key node, dict.get? key = some node → id node = key) :
    dict.values.foldlM register (holding Dict.empty) = .ok (holding dict) := by
  have fills : ∀ (entries : List (String × α)) (start : Dict α), Dict.Ascending entries →
      (∀ entry ∈ entries, id entry.2 = entry.1 ∧ start.contains entry.1 = false) →
      (entries.map (·.2)).foldlM register (holding start) =
        .ok (holding (entries.foldl (fun dict entry => dict.insert entry.1 entry.2) start)) := by
    intro entries
    induction entries with
    | nil => exact fun _ _ _ => rfl
    | cons entry rest ih =>
      intro start ascending each
      obtain ⟨above, later⟩ := List.pairwise_cons.mp ascending
      obtain ⟨⟨own, free⟩, others⟩ := List.forall_mem_cons.mp each
      have added := adds start entry.2 (by rw [own, free])
      rw [own] at added
      rw [List.map_cons, List.foldlM_cons, added]
      refine ih _ later fun other inside => ⟨(others other inside).1, ?_⟩
      have different : entry.1 ≠ other.1 := String.ne_of_lt (above other inside)
      rw [Dict.contains, Dict.get?_insert_of_ne _ different]
      exact (others other inside).2
  have filled := fills dict.entries Dict.empty dict.ordered fun entry inside =>
    ⟨keyed _ _ ((dict.get?_eq_some_iff _ _).mpr inside), rfl⟩
  rw [← Dict.ofList, dict.ofList_entries] at filled
  exact filled

/-- All nodes of the builder are among these. -/
structure Among (dataFlowNodes : List DataFlowNode) (decisionNodes : List DecisionNode)
    (builder : RegistryBuilder) : Prop where
  dataFlow : ∀ id node, builder.dataFlow.get? id = some node → node ∈ dataFlowNodes
  decision : ∀ id node, builder.decision.get? id = some node → node ∈ decisionNodes

section Among

variable {dataFlowNodes : List DataFlowNode} {decisionNodes : List DecisionNode}
  {builder after : RegistryBuilder}

theorem Among.registerDataFlow {node : DataFlowNode} (inside : node ∈ dataFlowNodes)
    (among : builder.Among dataFlowNodes decisionNodes)
    (ok : builder.registerDataFlow node = .ok after) : after.Among dataFlowNodes decisionNodes := by
  obtain rfl := eq_of_registerDataFlow ok
  exact ⟨Dict.forall_get?_insert inside among.dataFlow, among.decision⟩

theorem Among.registerDecision {node : DecisionNode} (inside : node ∈ decisionNodes)
    (among : builder.Among dataFlowNodes decisionNodes)
    (ok : builder.registerDecision node = .ok after) : after.Among dataFlowNodes decisionNodes := by
  obtain rfl := eq_of_registerDecision ok
  exact ⟨among.dataFlow, Dict.forall_get?_insert inside among.decision⟩

end Among

end RegistryBuilder

namespace Registry

/-- The export of a registry gives the same registry again. -/
theorem Accepted.ofDefinition_toDefinition {registry : Registry} (accepted : registry.Accepted) :
    ofDefinition registry.toDefinition = .ok registry := by
  have dataFlow : registry.toDefinition.dataFlowNodes.foldlM RegistryBuilder.registerDataFlow {} =
      .ok { dataFlow := registry.dataFlow } :=
    @RegistryBuilder.foldlM_values _ RegistryBuilder.registerDataFlow DataFlowNode.id
      (fun dict => { dataFlow := dict })
      (fun dict node free => by rw [RegistryBuilder.registerDataFlow, free]; rfl) registry.dataFlow
      accepted.dataFlow_keyed
  have decision : registry.toDefinition.decisionNodes.foldlM RegistryBuilder.registerDecision
      { dataFlow := registry.dataFlow } =
      .ok { dataFlow := registry.dataFlow, decision := registry.decision } :=
    @RegistryBuilder.foldlM_values _ RegistryBuilder.registerDecision DecisionNode.id
      (fun dict => { dataFlow := registry.dataFlow, decision := dict })
      (fun dict node free => by rw [RegistryBuilder.registerDecision, free]; rfl) registry.decision
      accepted.keyed
  obtain ⟨builder, -, built⟩ := accepted
  rw [RegistryBuilder.eq_of_build built] at built
  rw [ofDefinition, dataFlow]
  change (do
    let builder ← registry.toDefinition.decisionNodes.foldlM RegistryBuilder.registerDecision
      { dataFlow := registry.dataFlow }
    (builder.withRoot registry.root).build) = _
  rw [decision]
  exact built

theorem mem_of_ofDefinition {graph : GraphDefinition} {registry : Registry}
    (read : ofDefinition graph = .ok registry) :
    (∀ node ∈ registry.dataFlow.values, node ∈ graph.dataFlowNodes) ∧
      ∀ node ∈ registry.decision.values, node ∈ graph.decisionNodes := by
  obtain ⟨first, second, dataFlow, decision, built⟩ := builders_of_ofDefinition read
  have none : RegistryBuilder.Among graph.dataFlowNodes graph.decisionNodes {} := ⟨nofun, nofun⟩
  have some := RegistryBuilder.foldlM_keeps (fun _ inside => .registerDataFlow inside) none dataFlow
  have all := RegistryBuilder.foldlM_keeps (fun _ inside => .registerDecision inside) some decision
  have same := RegistryBuilder.eq_of_build built
  have sameDataFlow : second.dataFlow = registry.dataFlow :=
    congrArg RegistryBuilder.dataFlow same
  have sameDecision : second.decision = registry.decision :=
    congrArg RegistryBuilder.decision same
  rw [Dict.forall_mem_values_iff, Dict.forall_mem_values_iff, ← sameDataFlow, ← sameDecision]
  exact ⟨all.dataFlow, all.decision⟩

end Registry

theorem Dict.values_ascending {α : Type} {dict : Dict α} {id : α → String}
    (keyed : ∀ key item, dict.get? key = some item → id item = key) :
    (dict.values.map id).Pairwise (· < ·) := by
  have same : dict.values.map id = dict.keys := by
    rw [values, keys, List.map_map]
    refine List.map_congr_left fun entry inside => ?_
    exact keyed _ _ ((dict.get?_eq_some_iff _ _).mpr inside)
  rw [same]
  exact List.pairwise_map.mpr dict.ordered

/-- Graphs survive being exported and read again: what is written for a graph that has been read
gives an equal graph, and what is written for the registry of the graph, with the nodes in the order
of their ids, gives a registry with the same root, the same nodes and the same answer about cycles.
The law is about structured values; `GraphDefinition.text_reads` carries it over to their texts. -/
theorem GraphDefinition.survives_export {value : Json} (sound : value.Sound)
    {graph : GraphDefinition} (read : ofJson? value = some graph) :
    ofJson? graph.toJson = some graph ∧
      ∀ registry, Registry.ofDefinition graph = .ok registry →
        (registry.toDefinition.dataFlowNodes.map (·.id)).Pairwise (· < ·) ∧
        (registry.toDefinition.decisionNodes.map (·.id)).Pairwise (· < ·) ∧
        ∃ exported again, ofJson? registry.toDefinition.toJson = some exported ∧
          Registry.ofDefinition exported = .ok again ∧ again.root = registry.root ∧
          (∀ id, again.dataFlow? id = registry.dataFlow? id) ∧
          (∀ id, again.decision? id = registry.decision? id) ∧
          again.hasCycle = registry.hasCycle := by
  have written := written_of_ofJson? sound read
  refine ⟨ofJson?_toJson written, fun registry built => ?_⟩
  have accepted := Registry.accepted_of_ofDefinition built
  obtain ⟨dataFlow, decision⟩ := Registry.mem_of_ofDefinition built
  have exportWritten : registry.toDefinition.Written := by
    constructor
    · exact fun node inside => written.dataFlow node (dataFlow node inside)
    · exact fun node inside => written.decision node (decision node inside)
  refine ⟨Dict.values_ascending accepted.dataFlow_keyed, Dict.values_ascending accepted.keyed, ?_⟩
  exact ⟨registry.toDefinition, registry, ofJson?_toJson exportWritten,
    accepted.ofDefinition_toDefinition, rfl, fun _ => rfl, fun _ => rfl, rfl⟩

namespace Sample

/-- A written graph of a condition that leads to an action and back. It is not in the order of ids,
leaves most fields out and has null for a parameter. -/
def loop : Json :=
  .obj [
    ("data_flow_nodes", .arr [.obj [("id", .str "leaf"), ("kind", .str "processor"),
      ("metadata", .obj [("latency_ms", .int Json.largestWhole), ("reliability", .int 1)])]]),
    ("decision_nodes", .arr [
      .obj [("id", .str "test"), ("kind", .str "condition"), ("predicate", .str "always"),
        ("true_next", .str "act"), ("false_next", .null)],
      .obj [("action", .obj [("parameters", .arr [.obj [("key", .str "style"), ("value", .null)]]),
          ("target", .str "leaf"), ("type", .str "activate")]),
        ("children", .arr [.str "test"]), ("id", .str "act"), ("kind", .str "action")]]),
    ("root", .str "test")]

theorem sound_loop : loop.Sound := by
  simp [loop, Json.Sound, Json.Sound.SoundItems, Json.Sound.SoundFields, Json.smallestWhole,
    Json.largestWhole]

end Sample

theorem GraphDefinition.loop_survives_export :
    ∃ graph registry, Sample.loop.Sound ∧ ofJson? Sample.loop = some graph ∧
      Registry.ofDefinition graph = .ok registry ∧ ofJson? graph.toJson = some graph ∧
      (registry.toDefinition.dataFlowNodes.map (·.id)).Pairwise (· < ·) ∧
      (registry.toDefinition.decisionNodes.map (·.id)).Pairwise (· < ·) ∧
      ∃ exported again, ofJson? registry.toDefinition.toJson = some exported ∧
        Registry.ofDefinition exported = .ok again ∧ again.root = registry.root ∧
        (∀ id, again.dataFlow? id = registry.dataFlow? id) ∧
        (∀ id, again.decision? id = registry.decision? id) ∧
        again.hasCycle = registry.hasCycle := by
  obtain ⟨graph, registry, read, built⟩ : ∃ graph registry, ofJson? Sample.loop = some graph ∧
      Registry.ofDefinition graph = .ok registry := ⟨_, _, rfl, rfl⟩
  obtain ⟨same, exported⟩ := survives_export Sample.sound_loop read
  exact ⟨graph, registry, Sample.sound_loop, read, built, same, exported registry built⟩

end Switchyard
