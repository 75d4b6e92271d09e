import Switchyard.Proofs.Execution.Untimed
import Switchyard.Proofs.Execution.Node
set_option autoImplicit false

/-! How a node ends. What it leaves depends on the node, on the context that it is given and on
whether the request has been cancelled by then; when it begins and how long it waits do not matter.
Main statements: `Executor.leaves_of_outcome`, everything that a node which ends well can leave, and
`Executor.next_sublist`, it goes on only along its links. -/
namespace Switchyard

def DecisionNode.targets (node : DecisionNode) : List String := node.links.map (·.2)

/-- The context after a leaf that has answered an action. -/
def contextAfterLeaf (action : NodeAction) (leaf : DataFlowNode) (outputs : Dict Json)
    (context : Context) : Context :=
  (Leaves.deliver (Leaves.complete leaf outputs) (withParameters action context)).remove
    Context.Key.actionParameters

namespace Executor

variable (executor : Executor)

/-- How a node ends in a context; `stopped` tells whether the request has been cancelled by then. -/
def outcome (stopped : Bool) (node : DecisionNode) (context : Context) :
    Except NodeError NodeOutcome :=
  match (executor.enter node context).1 with
  | .settled outcome _ => .ok outcome
  | .handedOut work => (executor.settle stopped default default work).1.map (proceed node)

section Outcome

variable {executor} {node : DecisionNode} {context : Context}

theorem outcome_of_settled {result : NodeOutcome} {decision : Option DecisionOutcome}
    (settled : (executor.enter node context).1 = .settled result decision) (stopped : Bool) :
    executor.outcome stopped node context = .ok result := by
  rw [outcome, settled]

theorem outcome_of_handedOut {work : Work}
    (handedOut : (executor.enter node context).1 = .handedOut work) (stopped : Bool) :
    executor.outcome stopped node context =
      (executor.settle stopped default default work).1.map (proceed node) := by
  rw [outcome, handedOut]

theorem finish_outcome {run : NodeRun}
    (entered : (executor.enter run.node run.before).1 = .handedOut run.work) (stopped : Bool)
    (now : Timestamp) :
    (executor.finish stopped now run).1 = executor.outcome stopped run.node run.before := by
  have settled := executor.settle_alike stopped run.startedAt default now default run.work
  rw [outcome_of_handedOut entered]
  exact congrArg (Except.map (proceed run.node)) settled.outcome

/-- A node that begins ends at once, or it waits for the work that it has handed out. -/
theorem begin_outcome (executor : Executor) (stopped : Bool) (now : Timestamp)
    (node : DecisionNode) (context : Context) :
    match (executor.begin stopped now node context).1 with
    | .inl result => result = executor.outcome stopped node context
    | .inr run => run.node = node ∧ run.before = context ∧
        (executor.enter node context).1 = .handedOut run.work := by
  obtain ⟨quiet, -, ⟨result, decision, settled, began⟩ | ⟨work, handedOut, ended | waits⟩⟩ :=
    executor.begin_cases stopped now node context
  · rw [began]
    exact (outcome_of_settled settled stopped).symm
  · rw [ended]
    exact @finish_outcome executor ⟨node, context, now, work⟩ handedOut stopped now
  · rw [waits]
    exact ⟨rfl, rfl, handedOut⟩

theorem execute_outcome (executor : Executor) (stopped : Bool) (now : Timestamp)
    (node : DecisionNode) (context : Context) :
    (executor.execute stopped now node context).1 = executor.outcome stopped node context := by
  have began := executor.begin_outcome stopped now node context
  unfold execute
  generalize executor.begin stopped now node context = step at began ⊢
  obtain ⟨result | run, effects⟩ := step
  · exact began
  · obtain ⟨rfl, rfl, handedOut⟩ := began
    exact finish_outcome handedOut stopped now

/-! What is handed out, and where a node goes on once it has been settled. -/

theorem enter_leaf {action : NodeAction} {leaf : DataFlowNode}
    (behavior : node.behavior = .action action ∨ node.behavior = .fallback action)
    (resolved : executor.registry.dataFlow? action.target = some leaf) :
    (executor.enter node context).1 = .handedOut (.leaf leaf (withParameters action context)) := by
  rcases behavior with acts | falls
  · simp only [enter, acts, resolved]
  · simp only [enter, falls, resolved]

theorem enter_capability {action : NodeAction} (behavior : node.behavior = .capability action) :
    (executor.enter node context).1 =
      .handedOut (.capability (capabilityRequest node action context) context) := by
  simp only [enter, behavior]

theorem proceed_of_works (works : node.kind = .action ∨ node.kind = .capability) :
    proceed node = (NodeOutcome.mk · node.children) := by
  funext after
  cases behavior : node.behavior with
  | fallback action =>
    rw [DecisionNode.kind, behavior] at works
    rcases works with action | capability
    · cases action
    · cases capability
  | _ => simp only [proceed, behavior]

theorem proceed_fallback {action : NodeAction} (behavior : node.behavior = .fallback action) :
    proceed node = fun after => ⟨markFallback after, []⟩ := by
  funext after
  simp only [proceed, behavior]

/-! The outcome in equations, one for each kind of node. -/

theorem outcome_condition {predicate : String} {whenTrue whenFalse : Option String}
    (behavior : node.behavior = .condition predicate whenTrue whenFalse) (stopped : Bool) :
    executor.outcome stopped node context =
      .ok ⟨context, (if (Condition.evaluate executor.predicates predicate context).result
        then whenTrue else whenFalse).toList⟩ := by
  rw [outcome, enter, behavior]

def leafResult (executor : Executor) (action : NodeAction) (leaf : DataFlowNode)
    (context : Context) : Except NodeError Context :=
  match (executor.leaves.reply leaf (withParameters action context)).outcome with
  | .ok outputs => .ok (contextAfterLeaf action leaf outputs context)
  | .error error => .error (.leaf error)

theorem settle_leaf (action : NodeAction) (leaf : DataFlowNode) (context : Context)
    (startedAt now : Timestamp) :
    (executor.settle false startedAt now (.leaf leaf (withParameters action context))).1 =
      executor.leafResult action leaf context := by
  simp only [settle, close, answer, leafResult, Bool.false_eq_true, if_false]
  cases (executor.leaves.reply leaf (withParameters action context)).outcome <;> rfl

theorem outcome_of_leaf {action : NodeAction} {leaf : DataFlowNode}
    (handedOut : (executor.enter node context).1 =
      .handedOut (.leaf leaf (withParameters action context))) :
    executor.outcome false node context =
      (executor.leafResult action leaf context).map (proceed node) := by
  rw [outcome_of_handedOut handedOut, settle_leaf]

theorem outcome_action {action : NodeAction} (behavior : node.behavior = .action action)
    {leaf : DataFlowNode} (resolved : executor.registry.dataFlow? action.target = some leaf) :
    executor.outcome false node context =
      (executor.leafResult action leaf context).map (NodeOutcome.mk · node.children) := by
  rw [outcome_of_leaf (enter_leaf (.inl behavior) resolved),
    proceed_of_works (.inl (congrArg Behavior.kind behavior))]

theorem outcome_unresolved_action {action : NodeAction} (behavior : node.behavior = .action action)
    (unresolved : executor.registry.dataFlow? action.target = none) (stopped : Bool) :
    executor.outcome stopped node context = .ok ⟨context, node.children⟩ := by
  simp only [outcome, enter, behavior, unresolved]

theorem outcome_unresolved_fallback {action : NodeAction}
    (behavior : node.behavior = .fallback action)
    (unresolved : executor.registry.dataFlow? action.target = none) (stopped : Bool) :
    executor.outcome stopped node context =
      .ok ⟨markFallback (context.set Context.Key.finalResponse (.str apologyText)), []⟩ := by
  simp only [outcome, enter, behavior, unresolved]

def capabilityResult (executor : Executor) (request : CapabilityRequest) (context : Context) :
    Except NodeError Context :=
  if executor.capabilityTimeoutMs.toNat < (executor.capability request).delayMs then
    .error (.capabilityTimeout executor.capabilityTimeoutMs)
  else match (executor.capability request).outcome with
    | .ok decision => .ok (context.set Context.Key.capabilityResult decision.toJson)
    | .error error => .error (.capability error)

theorem settle_capability (request : CapabilityRequest) (context : Context)
    (startedAt now : Timestamp) :
    (executor.settle false startedAt now (.capability request context)).1 =
      executor.capabilityResult request context := by
  simp only [settle, close, answer, capabilityResult, Bool.false_eq_true, if_false]
  split
  · rfl
  · cases (executor.capability request).outcome <;> rfl

theorem outcome_capability {action : NodeAction} (behavior : node.behavior = .capability action) :
    executor.outcome false node context =
      (executor.capabilityResult (capabilityRequest node action context) context).map
        (NodeOutcome.mk · node.children) := by
  rw [outcome_of_handedOut (enter_capability behavior), settle_capability,
    proceed_of_works (.inr (congrArg Behavior.kind behavior))]

theorem outcome_stopped {work : Work}
    (handedOut : (executor.enter node context).1 = .handedOut work) :
    executor.outcome true node context = .error .cancelled := by
  rw [outcome_of_handedOut handedOut]
  cases work <;> rfl

end Outcome

/-- Everything that a node which ends well can leave. -/
inductive Leaves (node : DecisionNode) (context : Context) : NodeOutcome → Prop
  | decided {predicate : String} {whenTrue whenFalse : Option String}
      (behavior : node.behavior = .condition predicate whenTrue whenFalse) (result : Bool) :
      Leaves node context ⟨context, (if result then whenTrue else whenFalse).toList⟩
  | passed {action : NodeAction} (behavior : node.behavior = .action action)
      (unresolved : executor.registry.dataFlow? action.target = none) :
      Leaves node context ⟨context, node.children⟩
  | ran {action : NodeAction} {leaf : DataFlowNode} {outputs : Dict Json}
      (behavior : node.behavior = .action action)
      (resolved : executor.registry.dataFlow? action.target = some leaf)
      (replied : (executor.leaves.reply leaf (withParameters action context)).outcome =
        .ok outputs) :
      Leaves node context ⟨contextAfterLeaf action leaf outputs context, node.children⟩
  | asked {action : NodeAction} {decision : CapabilityDecision}
      (behavior : node.behavior = .capability action)
      (replied : (executor.capability (capabilityRequest node action context)).outcome =
        .ok decision) :
      Leaves node context
        ⟨context.set Context.Key.capabilityResult decision.toJson, node.children⟩
  | apologised {action : NodeAction} (behavior : node.behavior = .fallback action)
      (unresolved : executor.registry.dataFlow? action.target = none) :
      Leaves node context
        ⟨markFallback (context.set Context.Key.finalResponse (.str apologyText)), []⟩
  | fellBack {action : NodeAction} {leaf : DataFlowNode} {outputs : Dict Json}
      (behavior : node.behavior = .fallback action)
      (resolved : executor.registry.dataFlow? action.target = some leaf)
      (replied : (executor.leaves.reply leaf (withParameters action context)).outcome =
        .ok outputs) :
      Leaves node context ⟨markFallback (contextAfterLeaf action leaf outputs context), []⟩

section Leaves

variable {executor} {node : DecisionNode} {context : Context}

theorem leafResult_ok {action : NodeAction} {leaf : DataFlowNode} {after : Context}
    (left : executor.leafResult action leaf context = .ok after) :
    ∃ outputs, (executor.leaves.reply leaf (withParameters action context)).outcome =
      .ok outputs ∧ after = contextAfterLeaf action leaf outputs context := by
  unfold leafResult at left
  split at left
  · rename_i outputs replied
    exact ⟨outputs, replied, (Except.ok.inj left).symm⟩
  · cases left

theorem capabilityResult_ok {request : CapabilityRequest} {after : Context}
    (left : executor.capabilityResult request context = .ok after) :
    ∃ decision, (executor.capability request).outcome = .ok decision ∧
      after = context.set Context.Key.capabilityResult decision.toJson := by
  unfold capabilityResult at left
  split at left
  · cases left
  · split at left
    · rename_i decision replied
      exact ⟨decision, replied, (Except.ok.inj left).symm⟩
    · cases left

theorem not_stopped_of_ok {stopped : Bool} {result : NodeOutcome} {work : Work}
    (ended : executor.outcome stopped node context = .ok result)
    (handedOut : (executor.enter node context).1 = .handedOut work) : stopped = false := by
  cases stopped with
  | false => rfl
  | true =>
    rw [outcome_stopped handedOut] at ended
    cases ended

theorem exists_of_map_ok {α : Type} {change : α → NodeOutcome} {result : Except NodeError α}
    {left : NodeOutcome} (ended : result.map change = .ok left) :
    ∃ after, result = .ok after ∧ left = change after := by
  cases result with
  | ok after => exact ⟨after, rfl, (Except.ok.inj ended).symm⟩
  | error cause => cases ended

/-- A node that has handed out work to a leaf ends well only with an answer of the leaf. -/
theorem answered_of_ok {stopped : Bool} {result : NodeOutcome} {action : NodeAction}
    {leaf : DataFlowNode} (ended : executor.outcome stopped node context = .ok result)
    (handedOut : (executor.enter node context).1 =
      .handedOut (.leaf leaf (withParameters action context))) :
    ∃ outputs, (executor.leaves.reply leaf (withParameters action context)).outcome =
      .ok outputs ∧ result = proceed node (contextAfterLeaf action leaf outputs context) := by
  rw [not_stopped_of_ok ended handedOut, outcome_of_leaf handedOut] at ended
  obtain ⟨after, left, rfl⟩ := exists_of_map_ok ended
  obtain ⟨outputs, replied, rfl⟩ := leafResult_ok left
  exact ⟨outputs, replied, rfl⟩

theorem leaves_of_outcome {stopped : Bool} {result : NodeOutcome}
    (ended : executor.outcome stopped node context = .ok result) :
    executor.Leaves node context result := by
  cases behavior : node.behavior with
  | condition predicate whenTrue whenFalse =>
    rw [outcome_condition behavior] at ended
    rw [← Except.ok.inj ended]
    exact .decided behavior _
  | action action =>
    cases resolved : executor.registry.dataFlow? action.target with
    | none =>
      rw [outcome_unresolved_action behavior resolved] at ended
      rw [← Except.ok.inj ended]
      exact .passed behavior resolved
    | some leaf =>
      obtain ⟨outputs, replied, rfl⟩ := answered_of_ok ended (enter_leaf (.inl behavior) resolved)
      rw [proceed_of_works (.inl (congrArg Behavior.kind behavior))]
      exact .ran behavior resolved replied
  | capability action =>
    have goesOn : stopped = false := not_stopped_of_ok ended (enter_capability behavior)
    rw [goesOn, outcome_capability behavior] at ended
    obtain ⟨after, left, rfl⟩ := exists_of_map_ok ended
    obtain ⟨decision, replied, rfl⟩ := capabilityResult_ok left
    exact .asked behavior replied
  | fallback action =>
    cases resolved : executor.registry.dataFlow? action.target with
    | none =>
      rw [outcome_unresolved_fallback behavior resolved] at ended
      rw [← Except.ok.inj ended]
      exact .apologised behavior resolved
    | some leaf =>
      obtain ⟨outputs, replied, rfl⟩ := answered_of_ok ended (enter_leaf (.inr behavior) resolved)
      rw [proceed_fallback behavior]
      exact .fellBack behavior resolved replied

/-! Where a node goes on. -/

theorem children_sublist_targets (node : DecisionNode) : node.children.Sublist node.targets := by
  have split : node.targets =
      (DecisionNode.branchLinks node.behavior).map (·.2) ++ node.children := by
    simp [DecisionNode.targets, DecisionNode.links, Function.comp_def]
  rw [split]
  exact List.sublist_append_right _ _

theorem targets_eq_children (notCondition : node.kind ≠ .condition) :
    node.targets = node.children := by
  have noBranches : DecisionNode.branchLinks node.behavior = [] := by
    unfold DecisionNode.kind at notCondition
    cases behavior : node.behavior with
    | condition predicate whenTrue whenFalse =>
      rw [behavior] at notCondition
      exact absurd rfl notCondition
    | _ => rfl
  simp [DecisionNode.targets, DecisionNode.links, noBranches, Function.comp_def]

theorem branch_sublist_targets {predicate : String} {whenTrue whenFalse : Option String}
    (behavior : node.behavior = .condition predicate whenTrue whenFalse) (result : Bool) :
    (if result then whenTrue else whenFalse).toList.Sublist node.targets := by
  have split : node.targets = whenTrue.toList ++ (whenFalse.toList ++ node.children) := by
    simp [DecisionNode.targets, DecisionNode.links, DecisionNode.branchLinks, behavior,
      Function.comp_def]
  rw [split]
  cases result with
  | true => exact List.sublist_append_left _ _
  | false => exact (List.sublist_append_left _ _).trans (List.sublist_append_right _ _)

theorem next_sublist {result : NodeOutcome} (leaves : executor.Leaves node context result) :
    result.next.Sublist node.targets := by
  cases leaves with
  | decided behavior result => exact branch_sublist_targets behavior result
  | passed _ _ => exact children_sublist_targets node
  | ran _ _ _ => exact children_sublist_targets node
  | asked _ _ => exact children_sublist_targets node
  | apologised _ _ => exact List.nil_sublist _
  | fellBack _ _ _ => exact List.nil_sublist _

theorem next_eq_targets {result : NodeOutcome} (leaves : executor.Leaves node context result)
    (works : node.kind = .action ∨ node.kind = .capability) : result.next = node.targets := by
  obtain ⟨notCondition, notFallback⟩ : node.kind ≠ .condition ∧ node.kind ≠ .fallback := by
    rcases works with kind | kind <;> simp [kind]
  rw [targets_eq_children notCondition]
  cases leaves with
  | decided behavior _ => exact absurd (by rw [DecisionNode.kind, behavior]; rfl) notCondition
  | passed _ _ => rfl
  | ran _ _ _ => rfl
  | asked _ _ => rfl
  | apologised behavior _ => exact absurd (by rw [DecisionNode.kind, behavior]; rfl) notFallback
  | fellBack behavior _ _ => exact absurd (by rw [DecisionNode.kind, behavior]; rfl) notFallback

end Leaves

end Executor

end Switchyard
