import Switchyard.Json.Basic
set_option autoImplicit false

/-! The two families of nodes. Data-flow nodes name the work that leaves do; decision nodes form the
graph that a walk follows and link to each other by id. -/
namespace Switchyard

inductive DataFlowKind where
  | input
  | processor
  | decision
  | output
  | fallback
  deriving Repr, DecidableEq

namespace DataFlowKind

def all : List DataFlowKind := [.input, .processor, .decision, .output, .fallback]

def name : DataFlowKind → String
  | .input => "input"
  | .processor => "processor"
  | .decision => "decision"
  | .output => "output"
  | .fallback => "fallback"

end DataFlowKind

structure CostMetadata where
  latencyMs : UInt64 := 0
  reliability : Float := 1.0
  resourceCost : Float := 0.0

structure DataFlowNode where
  id : String
  kind : DataFlowKind
  inputs : List String := []
  outputs : List String := []
  transformations : Dict String := Dict.empty
  successCondition : Option String := none
  failureCondition : Option String := none
  timeoutCondition : Option String := none
  metadata : CostMetadata := {}

inductive ActionType where
  | activate
  | deactivate
  | configure
  | fallback
  deriving Repr, DecidableEq

namespace ActionType

def all : List ActionType := [.activate, .deactivate, .configure, .fallback]

def name : ActionType → String
  | .activate => "activate"
  | .deactivate => "deactivate"
  | .configure => "configure"
  | .fallback => "fallback"

/-- The target has to be a node that exists. -/
def needsTarget : ActionType → Bool
  | .activate | .fallback => true
  | .deactivate | .configure => false

end ActionType

structure ActionParameter where
  key : String
  value : Json

structure NodeAction where
  type : ActionType
  target : String
  parameters : List ActionParameter := []

namespace NodeAction

def parameter? (action : NodeAction) (key : String) : Option Json :=
  (action.parameters.find? fun parameter => parameter.key == key).map (·.value)

/-- All parameters as one map; of two with the same key the first counts. -/
def parameterMap (action : NodeAction) : Dict Json :=
  action.parameters.foldl (fun dict parameter =>
    if dict.contains parameter.key then dict
    else dict.insert parameter.key parameter.value) Dict.empty

def describe (action : NodeAction) (separator : String) : String :=
  action.type.name ++ separator ++ action.target

end NodeAction

structure NodeMetadata where
  priority : Int32 := 0
  expectedMs : UInt64 := 0
  successRate : Float := 1.0

inductive DecisionKind where
  | condition
  | action
  | capability
  | fallback
  deriving Repr, DecidableEq

namespace DecisionKind

def all : List DecisionKind := [.condition, .action, .capability, .fallback]

def name : DecisionKind → String
  | .condition => "condition"
  | .action => "action"
  | .capability => "capability"
  | .fallback => "fallback"

end DecisionKind

inductive Behavior where
  /-- Tests a predicate and goes on to one of two nodes, or ends that branch. -/
  | condition (predicate : String) (whenTrue whenFalse : Option String)
  /-- Runs a leaf and goes on to the children. -/
  | action (work : NodeAction)
  /-- Asks the capability orchestrator and goes on to the children. -/
  | capability (work : NodeAction)
  /-- Runs a leaf, marks the context and ends that branch. -/
  | fallback (work : NodeAction)

namespace Behavior

def kind : Behavior → DecisionKind
  | .condition .. => .condition
  | .action _ => .action
  | .capability _ => .capability
  | .fallback _ => .fallback

def action? : Behavior → Option NodeAction
  | .condition .. => none
  | .action work | .capability work | .fallback work => some work

/-- How records name what the node did. -/
def describe : Behavior → String
  | .condition predicate _ _ => "evaluate:" ++ predicate
  | .action work | .capability work | .fallback work => work.describe ":"

end Behavior

structure DecisionNode where
  id : String
  behavior : Behavior
  children : List String := []
  parent : Option String := none
  metadata : NodeMetadata := {}

inductive LinkField where
  | trueNext
  | falseNext
  | children
  deriving Repr, DecidableEq

def LinkField.name : LinkField → String
  | .trueNext => "true_next"
  | .falseNext => "false_next"
  | .children => "children"

namespace DecisionNode

def kind (node : DecisionNode) : DecisionKind := node.behavior.kind

def action? (node : DecisionNode) : Option NodeAction := node.behavior.action?

/-- The links of the branches of a condition, the one for true first. -/
def branchLinks : Behavior → List (LinkField × String)
  | .condition _ whenTrue whenFalse =>
    (whenTrue.toList.map fun id => (.trueNext, id)) ++
      (whenFalse.toList.map fun id => (.falseNext, id))
  | _ => []

/-- Every link to another decision node, in the order true, false, children. -/
def links (node : DecisionNode) : List (LinkField × String) :=
  branchLinks node.behavior ++ node.children.map fun id => (.children, id)

end DecisionNode

structure GraphDefinition where
  root : String
  dataFlowNodes : List DataFlowNode := []
  decisionNodes : List DecisionNode := []

end Switchyard
