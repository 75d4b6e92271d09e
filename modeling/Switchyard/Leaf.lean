import Switchyard.Graph.Node
import Switchyard.Warning
set_option autoImplicit false

/-! Leaves: the work behind a data-flow node. A leaf reads the context and answers with outputs;
every output that the node declares and the leaf leaves out gets a placeholder. -/
namespace Switchyard

inductive LeafError where
  | failed (reason : String)
  deriving Repr, DecidableEq

def LeafError.message : LeafError → String
  | .failed reason => "leaf operation failed: " ++ reason

structure LeafReply where
  delayMs : Nat := 0
  outcome : Except LeafError (Dict Json)

abbrev LeafHandler := DataFlowNode → Context → LeafReply

/-- The handlers of leaves by node id, and whether declared inputs are checked. -/
structure Leaves where
  handlers : Dict LeafHandler := Dict.empty
  validateInputs : Bool

namespace Leaves

/-- The reply of a node's leaf; a node without a handler has no outputs of its own. -/
def reply (leaves : Leaves) (node : DataFlowNode) (context : Context) : LeafReply :=
  match leaves.handlers.get? node.id with
  | some handler => handler node context
  | none => { outcome := .ok Dict.empty }

def missingInputs (node : DataFlowNode) (context : Context) : List String :=
  node.inputs.filter fun input => !context.contains input

def warnings (leaves : Leaves) (node : DataFlowNode) (context : Context) : List Warning :=
  let missing := missingInputs node context
  if leaves.validateInputs && !missing.isEmpty then
    [.missingInputs node.id context.correlationId missing]
  else []

def placeholder (name : String) : Json := .str (name ++ "_result")

/-- The outputs together with a placeholder for each declared one that is not among them. -/
def complete (node : DataFlowNode) (outputs : Dict Json) : Dict Json :=
  node.outputs.foldl (fun outputs name =>
    if outputs.contains name then outputs else outputs.insert name (placeholder name)) outputs

/-- The context after a leaf: its complete outputs, one by one and together as the previous
result. -/
def deliver (outputs : Dict Json) (context : Context) : Context :=
  (context.merge outputs).set Context.Key.previousResult (Json.ofDict outputs)

def deliverWarnings (outputs : Dict Json) : List Warning :=
  Warning.ofSetAll outputs.entries ++
    Warning.ofSet Context.Key.previousResult (Json.ofDict outputs)

def describe (leaves : Leaves) : String :=
  "DataFlowRunner \x7b handlers: " ++ Text.listing leaves.handlers.keys ++
    ", validate_inputs: " ++ toString leaves.validateInputs ++ " \x7d"

end Leaves

end Switchyard
