import Switchyard.Condition
import Switchyard.Execution.Effect
import Switchyard.Leaf
import Switchyard.Registry.Basic
set_option autoImplicit false

/-! Running one decision node. A node is either settled at once or hands work to a leaf or to the
capability orchestrator; that work is settled by its answer, by a deadline or by cancellation.
Whatever happens, one record is written when the node is done. -/
namespace Switchyard

inductive NodeError where
  | leaf (error : LeafError)
  | capability (error : CapabilityError)
  | capabilityTimeout (limitMs : UInt64)
  | cancelled
  deriving Repr, DecidableEq

namespace NodeError

def kind : NodeError → String
  | .leaf _ => "Leaf"
  | .capability _ => "Capability"
  | .capabilityTimeout _ => "CapabilityTimeout"
  | .cancelled => "Cancelled"

def message : NodeError → String
  | .leaf error => error.message
  | .capability error => "capability activation failed: " ++ error.message
  | .capabilityTimeout limitMs =>
    "capability activation timed out after " ++ toString limitMs ++ " ms"
  | .cancelled => "node execution cancelled"

end NodeError

/-- The context a node leaves, and the nodes to go on with. -/
structure NodeOutcome where
  context : Context
  next : List String

structure Executor where
  registry : Registry
  predicates : Dict Predicate
  leaves : Leaves
  capability : CapabilityRequest → CapabilityReply
  traceMode : TraceMode
  monitorPerformance : Bool
  capabilityTimeoutMs : UInt64

/-- Work that a node has handed out, with the context it was handed out in. -/
inductive Work where
  | leaf (node : DataFlowNode) (context : Context)
  | capability (request : CapabilityRequest) (context : Context)

inductive Begun where
  | settled (outcome : NodeOutcome) (decision : Option DecisionOutcome)
  | handedOut (work : Work)

structure NodeRun where
  node : DecisionNode
  before : Context
  startedAt : Timestamp
  work : Work

def capabilityRequest (node : DecisionNode) (action : NodeAction) (context : Context) :
    CapabilityRequest where
  correlationId := context.correlationId
  userId := context.text? Context.Key.userId
  channelId := context.text? Context.Key.channelId
  content := context.content
  history := context.items Context.Key.history
  intents := (context.items Context.Key.intents).filterMap Json.asText?
  loadHints := {
    qualityMode := (action.parameter? "quality_mode").bind Json.asText?
    maxLatencyMs := ((action.parameter? "max_latency_ms").bind Json.uint64?).or
      (if 0 < node.metadata.expectedMs then some node.metadata.expectedMs else none)
    budget := (action.parameter? "budget").bind Json.asFloat? }

/-- The parameters of an action as leaves see them. -/
def parametersObject (action : NodeAction) : Json := Json.ofDict action.parameterMap

/-- The context handed to a leaf: with the parameters of the action if it has any. -/
def withParameters (action : NodeAction) (context : Context) : Context :=
  if action.parameters.isEmpty then context
  else context.set Context.Key.actionParameters (parametersObject action)

def parameterWarnings (action : NodeAction) : List Warning :=
  if action.parameters.isEmpty then []
  else Warning.ofSet Context.Key.actionParameters (parametersObject action)

def markFallback (context : Context) : Context := context.set Context.Key.fallback (.bool true)

namespace Executor

/-- How long work takes until it is settled: a capability has to answer before the deadline. -/
def delayMs (executor : Executor) : Work → Nat
  | .leaf node context => (executor.leaves.reply node context).delayMs
  | .capability request _ =>
    min (executor.capability request).delayMs executor.capabilityTimeoutMs.toNat

def announce (executor : Executor) : Work → List Effect
  | .leaf node context => Effect.warnings (executor.leaves.warnings node context)
  | .capability request _ => [.asked request]

/-- The context that answered work leaves, or why there is none. -/
def answer (executor : Executor) : Work → Except NodeError Context × List Effect
  | .leaf node context =>
    match (executor.leaves.reply node context).outcome with
    | .ok outputs =>
      let outputs := Leaves.complete node outputs
      (.ok (Leaves.deliver outputs context), Effect.warnings (Leaves.deliverWarnings outputs))
    | .error error => (.error (.leaf error), [])
  | .capability request context =>
    let reply := executor.capability request
    if executor.capabilityTimeoutMs.toNat < reply.delayMs then
      (.error (.capabilityTimeout executor.capabilityTimeoutMs), [])
    else match reply.outcome with
      | .ok decision =>
        (.ok (context.set Context.Key.capabilityResult decision.toJson),
          Effect.warnings (Warning.ofSet Context.Key.capabilityResult decision.toJson) ++
            [.decided context.correlationId decision])
      | .error error => (.error (.capability error), [])

/-- A leaf that has ended leaves an activation and takes the parameters away with it. -/
def close (work : Work) (startedAt now : Timestamp) (result : Except NodeError Context) :
    Except NodeError Context × List Effect :=
  match work with
  | .leaf node context =>
    (result.map fun context => context.remove Context.Key.actionParameters,
      [.activated node.id {
        correlationId := context.correlationId
        timestamp := now
        latencyMs := UInt64.ofNat (now.millis - startedAt.millis).toNat
        success := result.isOk }])
  | .capability .. => (result, [])

/-- Settles work: cancellation comes before any answer. -/
def settle (executor : Executor) (cancelled : Bool) (startedAt now : Timestamp) (work : Work) :
    Except NodeError Context × List Effect :=
  let (result, effects) :=
    if cancelled then (.error NodeError.cancelled, []) else executor.answer work
  let (result, closing) := close work startedAt now result
  (result, effects ++ closing)

/-- Where a node goes on once its work has left a context. -/
def proceed (node : DecisionNode) (context : Context) : NodeOutcome :=
  match node.behavior with
  | .fallback _ => ⟨markFallback context, []⟩
  | _ => ⟨context, node.children⟩

/-- A condition is settled at once, and so is an action without a leaf. -/
def enter (executor : Executor) (node : DecisionNode) (context : Context) :
    Begun × List Effect :=
  match node.behavior with
  | .condition predicate whenTrue whenFalse =>
    let evaluation := Condition.evaluate executor.predicates predicate context
    let chosen := if evaluation.result then whenTrue else whenFalse
    (.settled ⟨context, chosen.toList⟩
        (some ⟨predicate, evaluation.result, evaluation.reasoning⟩),
      Effect.warnings (Condition.warnings executor.predicates predicate context))
  | .action action =>
    match executor.registry.dataFlow? action.target with
    | some leaf =>
      (.handedOut (.leaf leaf (withParameters action context)),
        Effect.warnings (parameterWarnings action))
    | none =>
      (.settled ⟨context, node.children⟩ none,
        [.warned (.unresolvedAction node.id action.target)])
  | .capability action =>
    (.handedOut (.capability (capabilityRequest node action context) context), [])
  | .fallback action =>
    match executor.registry.dataFlow? action.target with
    | some leaf =>
      (.handedOut (.leaf leaf (withParameters action context)),
        Effect.warnings (parameterWarnings action))
    | none =>
      (.settled ⟨markFallback (context.set Context.Key.finalResponse (.str apologyText)), []⟩ none,
        [.warned (.unresolvedFallback action.target)])

def recordOf (executor : Executor) (node : DecisionNode) (before : Context)
    (startedAt now : Timestamp) (decision : Option DecisionOutcome)
    (result : Except NodeError NodeOutcome) : TraceRecord :=
  let after := match result with
    | .ok outcome => outcome.context
    | .error _ => before
  { timestamp := now
    correlationId := before.correlationId
    nodeId := node.id
    nodeKind := node.kind
    action := node.behavior.describe
    inputsSummary := Recorder.summarize executor.traceMode before.values
    outputsSummary := Recorder.summarize executor.traceMode (match result with
      | .ok outcome => outcome.context.changesSince before
      | .error _ => Dict.empty)
    decision := decision
    performance := {
      startTime := startedAt
      endTime := now
      latencyMs := UInt64.ofNat (now.millis - startedAt.millis).toNat
      resourceUsage :=
        if executor.monitorPerformance then some (UInt64.ofNat after.serializedSize) else none }
    errors := match result with
      | .ok _ => []
      | .error error => [error.message]
    nextNodes := match result with
      | .ok outcome => outcome.next
      | .error _ => [] }

def finish (executor : Executor) (cancelled : Bool) (now : Timestamp) (run : NodeRun) :
    Except NodeError NodeOutcome × List Effect :=
  let (result, effects) := executor.settle cancelled run.startedAt now run.work
  let result := result.map (proceed run.node)
  (result, effects ++
    [.recorded (executor.recordOf run.node run.before run.startedAt now none result)])

/-- Begins a node. It ends at once unless it has to wait: work is not even started once the request
is cancelled. -/
def begin (executor : Executor) (cancelled : Bool) (now : Timestamp) (node : DecisionNode)
    (context : Context) : (Except NodeError NodeOutcome ⊕ NodeRun) × List Effect :=
  match executor.enter node context with
  | (.settled outcome decision, effects) =>
    (.inl (.ok outcome), effects ++
      [.recorded (executor.recordOf node context now now decision (.ok outcome))])
  | (.handedOut work, effects) =>
    let run : NodeRun := ⟨node, context, now, work⟩
    if cancelled then
      let (result, ending) := executor.finish true now run
      (.inl result, effects ++ ending)
    else if executor.delayMs work = 0 then
      let (result, ending) := executor.finish false now run
      (.inl result, effects ++ executor.announce work ++ ending)
    else (.inr run, effects ++ executor.announce work)

/-- Runs a node to its end, whatever it has to wait for. -/
def execute (executor : Executor) (cancelled : Bool) (now : Timestamp) (node : DecisionNode)
    (context : Context) : Except NodeError NodeOutcome × List Effect :=
  match executor.begin cancelled now node context with
  | (.inl result, effects) => (result, effects)
  | (.inr run, effects) =>
    let (result, ending) := executor.finish cancelled now run
    (result, effects ++ ending)

end Executor

end Switchyard
