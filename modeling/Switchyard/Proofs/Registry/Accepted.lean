import Switchyard.Registry.Basic
set_option autoImplicit false

/-! Registries as they come out of a builder: nodes are registered one after another, a root is
named, and the checks of freezing are passed. -/
namespace Switchyard

namespace RegistryBuilder

/-- The builder came about by registering nodes and naming a root, in any order. -/
inductive Registered : RegistryBuilder → Prop
  | empty : Registered {}
  | dataFlow {builder after : RegistryBuilder} {node : DataFlowNode}
      (registered : Registered builder) (ok : builder.registerDataFlow node = .ok after) :
      Registered after
  | decision {builder after : RegistryBuilder} {node : DecisionNode}
      (registered : Registered builder) (ok : builder.registerDecision node = .ok after) :
      Registered after
  | root {builder : RegistryBuilder} (registered : Registered builder) (id : String) :
      Registered (builder.withRoot id)

theorem eq_of_registerDataFlow {builder after : RegistryBuilder} {node : DataFlowNode}
    (ok : builder.registerDataFlow node = .ok after) :
    after = { builder with dataFlow := builder.dataFlow.insert node.id node } := by
  unfold registerDataFlow at ok
  split at ok
  · cases ok
  · exact (Except.ok.inj ok).symm

theorem eq_of_registerDecision {builder after : RegistryBuilder} {node : DecisionNode}
    (ok : builder.registerDecision node = .ok after) :
    after = { builder with decision := builder.decision.insert node.id node } := by
  unfold registerDecision at ok
  split at ok
  · cases ok
  · exact (Except.ok.inj ok).symm

theorem Registered.keyed {builder : RegistryBuilder} (registered : builder.Registered) :
    ∀ id node, builder.decision.get? id = some node → node.id = id := by
  induction registered with
  | empty => exact nofun
  | dataFlow _ ok ih =>
    obtain rfl := eq_of_registerDataFlow ok
    exact ih
  | decision _ ok ih =>
    obtain rfl := eq_of_registerDecision ok
    exact Dict.forall_get?_insert rfl ih
  | root _ _ ih => exact ih

theorem Registered.dataFlow_keyed {builder : RegistryBuilder} (registered : builder.Registered) :
    ∀ id node, builder.dataFlow.get? id = some node → node.id = id := by
  induction registered with
  | empty => exact nofun
  | dataFlow _ ok ih =>
    obtain rfl := eq_of_registerDataFlow ok
    exact Dict.forall_get?_insert rfl ih
  | decision _ ok ih =>
    obtain rfl := eq_of_registerDecision ok
    exact ih
  | root _ _ ih => exact ih

/-- What every registration keeps, registering many nodes keeps. -/
theorem foldlM_keeps {α : Type}
    {register : RegistryBuilder → α → Except RegistryError RegistryBuilder}
    {holds : RegistryBuilder → Prop} {nodes : List α}
    (keeps : ∀ node ∈ nodes, ∀ {builder after : RegistryBuilder}, holds builder →
      register builder node = .ok after → holds after)
    {builder after : RegistryBuilder} (before : holds builder)
    (ok : nodes.foldlM register builder = .ok after) : holds after := by
  induction nodes generalizing builder with
  | nil =>
    rw [← Except.ok.inj ok]
    exact before
  | cons node rest ih =>
    obtain ⟨first, others⟩ := List.forall_mem_cons.mp keeps
    rw [List.foldlM_cons] at ok
    cases done : register builder node with
    | error error =>
      rw [done] at ok
      cases ok
    | ok next =>
      rw [done] at ok
      exact ih others (first before done) ok

theorem eq_of_build {builder : RegistryBuilder} {registry : Registry}
    (built : builder.build = .ok registry) :
    builder = ⟨registry.dataFlow, registry.decision, some registry.root⟩ := by
  obtain ⟨dataFlow, decision, root⟩ := builder
  unfold build at built
  split at built
  · cases built
  · rename_i named
    split at built
    · cases built
    · split at built
      · cases built
      · obtain rfl := Except.ok.inj built
        exact congrArg _ named

end RegistryBuilder

namespace Registry

def Accepted (registry : Registry) : Prop :=
  ∃ builder : RegistryBuilder, builder.Registered ∧ builder.build = .ok registry

def Keyed (registry : Registry) : Prop :=
  ∀ id node, registry.decision? id = some node → node.id = id

theorem Accepted.keyed {registry : Registry} (accepted : registry.Accepted) : registry.Keyed := by
  obtain ⟨builder, registered, built⟩ := accepted
  rw [RegistryBuilder.eq_of_build built] at registered
  exact registered.keyed

theorem Accepted.dataFlow_keyed {registry : Registry} (accepted : registry.Accepted) :
    ∀ id node, registry.dataFlow? id = some node → node.id = id := by
  obtain ⟨builder, registered, built⟩ := accepted
  rw [RegistryBuilder.eq_of_build built] at registered
  exact registered.dataFlow_keyed

/-- Reading a definition registers its data-flow nodes, then its decision nodes, and freezes them. -/
theorem builders_of_ofDefinition {graph : GraphDefinition} {registry : Registry}
    (read : ofDefinition graph = .ok registry) :
    ∃ first second : RegistryBuilder,
      graph.dataFlowNodes.foldlM RegistryBuilder.registerDataFlow {} = .ok first ∧
      graph.decisionNodes.foldlM RegistryBuilder.registerDecision first = .ok second ∧
      (second.withRoot graph.root).build = .ok registry := by
  unfold ofDefinition at read
  cases dataFlow : graph.dataFlowNodes.foldlM RegistryBuilder.registerDataFlow {} with
  | error error =>
    rw [dataFlow] at read
    cases read
  | ok first =>
    rw [dataFlow] at read
    change (do
      let builder ← graph.decisionNodes.foldlM RegistryBuilder.registerDecision first
      (builder.withRoot graph.root).build) = _ at read
    cases decision : graph.decisionNodes.foldlM RegistryBuilder.registerDecision first with
    | error error =>
      rw [decision] at read
      cases read
    | ok second =>
      rw [decision] at read
      exact ⟨first, second, rfl, decision, read⟩

theorem accepted_of_ofDefinition {graph : GraphDefinition} {registry : Registry}
    (read : ofDefinition graph = .ok registry) : registry.Accepted := by
  obtain ⟨first, second, dataFlow, decision, built⟩ := builders_of_ofDefinition read
  have firstRegistered : first.Registered :=
    RegistryBuilder.foldlM_keeps (fun _ _ => .dataFlow) .empty dataFlow
  have secondRegistered : second.Registered :=
    RegistryBuilder.foldlM_keeps (fun _ _ => .decision) firstRegistered decision
  exact ⟨_, secondRegistered.root graph.root, built⟩

end Registry

end Switchyard
