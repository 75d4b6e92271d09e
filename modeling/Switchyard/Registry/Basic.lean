import Switchyard.Graph.Codec
import Switchyard.Warning
set_option autoImplicit false

/-! The registry of nodes: registration, the checks made when it is frozen, and the search for
cycles. -/
namespace Switchyard

inductive RegistryError where
  | duplicateDataFlowNode (id : String)
  | duplicateDecisionNode (id : String)
  | danglingReference (node : String) (field : LinkField) (target : String)
  | unresolvedActionTarget (node target : String)
  | missingRoot
  | unknownRoot (root : String)
  deriving Repr, DecidableEq

namespace RegistryError

def kind : RegistryError → String
  | .duplicateDataFlowNode _ => "DuplicateDataFlowNode"
  | .duplicateDecisionNode _ => "DuplicateDecisionNode"
  | .danglingReference .. => "DanglingReference"
  | .unresolvedActionTarget .. => "UnresolvedActionTarget"
  | .missingRoot => "MissingRoot"
  | .unknownRoot _ => "UnknownRoot"

def message : RegistryError → String
  | .duplicateDataFlowNode id => "duplicate data-flow node id '" ++ id ++ "'"
  | .duplicateDecisionNode id => "duplicate decision node id '" ++ id ++ "'"
  | .danglingReference node field target =>
    "decision node '" ++ node ++ "' references unknown node '" ++ target ++ "' via " ++ field.name
  | .unresolvedActionTarget node target =>
    "decision node '" ++ node ++ "' has action target '" ++ target ++ "' that resolves to no node"
  | .missingRoot => "no root decision node was designated"
  | .unknownRoot root => "root '" ++ root ++ "' is not a registered decision node"

end RegistryError

structure Registry where
  dataFlow : Dict DataFlowNode
  decision : Dict DecisionNode
  root : String
  hasCycle : Bool

structure RegistryBuilder where
  dataFlow : Dict DataFlowNode := Dict.empty
  decision : Dict DecisionNode := Dict.empty
  root : Option String := none

def leadsInto (node : DecisionNode) (ids : List String) : Bool :=
  node.links.any fun link => ids.contains link.2

/-- The ids whose node still leads to one of them. -/
def continuing (nodes : Dict DecisionNode) (ids : List String) : List String :=
  ids.filter fun id => (nodes.get? id).any fun node => leadsInto node ids

/-- Drops ids without a way on until none is left to drop; a round that drops nothing is the
last. -/
def prune (nodes : Dict DecisionNode) : Nat → List String → List String
  | 0, ids => ids
  | rounds + 1, ids =>
    let kept := continuing nodes ids
    if kept.length = ids.length then ids else prune nodes rounds kept

/-- Some node leads back to itself. Nodes that only lead to dead ends are pruned; what stays leads
on for ever, and among finitely many nodes that means a cycle. -/
def hasCycle (nodes : Dict DecisionNode) : Bool :=
  !(prune nodes nodes.size nodes.keys).isEmpty

namespace RegistryBuilder

def registerDataFlow (builder : RegistryBuilder) (node : DataFlowNode) :
    Except RegistryError RegistryBuilder :=
  if builder.dataFlow.contains node.id then .error (.duplicateDataFlowNode node.id)
  else .ok { builder with dataFlow := builder.dataFlow.insert node.id node }

def registerDecision (builder : RegistryBuilder) (node : DecisionNode) :
    Except RegistryError RegistryBuilder :=
  if builder.decision.contains node.id then .error (.duplicateDecisionNode node.id)
  else .ok { builder with decision := builder.decision.insert node.id node }

def withRoot (builder : RegistryBuilder) (root : String) : RegistryBuilder :=
  { builder with root := some root }

def danglingLink? (builder : RegistryBuilder) (node : DecisionNode) : Option RegistryError :=
  (node.links.find? fun link => !builder.decision.contains link.2).map fun link =>
    .danglingReference node.id link.1 link.2

/-- The target of a node's action when it should be a node and is none. The capability nodes name
a capability instead. -/
def unresolvedTarget? (builder : RegistryBuilder) (node : DecisionNode) : Option RegistryError :=
  match node.behavior with
  | .action work | .fallback work =>
    if work.type.needsTarget && !builder.dataFlow.contains work.target &&
        !builder.decision.contains work.target then
      some (.unresolvedActionTarget node.id work.target)
    else none
  | .condition .. | .capability _ => none

def nodeFault? (builder : RegistryBuilder) (node : DecisionNode) : Option RegistryError :=
  (builder.danglingLink? node).or (builder.unresolvedTarget? node)

/-- Freezes the nodes; the first fault in id order is reported. -/
def build (builder : RegistryBuilder) : Except RegistryError Registry :=
  match builder.root with
  | none => .error .missingRoot
  | some root =>
    if !builder.decision.contains root then .error (.unknownRoot root)
    else match builder.decision.values.findSome? builder.nodeFault? with
      | some fault => .error fault
      | none => .ok ⟨builder.dataFlow, builder.decision, root, hasCycle builder.decision⟩

end RegistryBuilder

namespace Registry

/-- Registers the data-flow nodes, then the decision nodes, in the order they are written. -/
def ofDefinition (graph : GraphDefinition) : Except RegistryError Registry := do
  let builder ← graph.dataFlowNodes.foldlM RegistryBuilder.registerDataFlow {}
  let builder ← graph.decisionNodes.foldlM RegistryBuilder.registerDecision builder
  (builder.withRoot graph.root).build

def toDefinition (registry : Registry) : GraphDefinition :=
  ⟨registry.root, registry.dataFlow.values, registry.decision.values⟩

def warnings (registry : Registry) : List Warning :=
  if registry.hasCycle then [.cyclicGraph registry.root] else []

def dataFlow? (registry : Registry) (id : String) : Option DataFlowNode := registry.dataFlow.get? id

def decision? (registry : Registry) (id : String) : Option DecisionNode := registry.decision.get? id

end Registry

end Switchyard
