import Switchyard.Proofs.Context.Sizes
import Switchyard.Proofs.Execution.Delivery
import Switchyard.Proofs.Execution.Safety
set_option autoImplicit false

/-! What a node that runs a leaf makes of its context, key by key. The context is written to five
times, and outputs may bear the names of the reserved keys: the flag of a fallback node and the
removal of the parameters come last, before them the previous result, and the single outputs before
that. Main statement: `Executor.leaf_node_effect`. -/
namespace Switchyard

open Context

def Completes (leaf : DataFlowNode) (outputs all : Dict Json) : Prop :=
  ∀ name, all.get? name = match outputs.get? name with
    | some value => some value
    | none => if name ∈ leaf.outputs then some (.str (name ++ "_result")) else none

theorem Leaves.complete_completes (leaf : DataFlowNode) (outputs : Dict Json) :
    Completes leaf outputs (complete leaf outputs) := by
  intro name
  rw [get?_complete]
  cases outputs.get? name with
  | none => rfl
  | some value => rfl

/-- What a leaf answers: what its handler does, or no outputs if there is none. -/
def Leaves.answer (leaves : Leaves) (leaf : DataFlowNode) (context : Context) :
    Except LeafError (Dict Json) :=
  match leaves.handlers.get? leaf.id with
  | some handler => (handler leaf context).outcome
  | none => .ok Dict.empty

theorem Leaves.outcome_reply (leaves : Leaves) (leaf : DataFlowNode) (context : Context) :
    (leaves.reply leaf context).outcome = leaves.answer leaf context := by
  rw [reply, answer]
  cases leaves.handlers.get? leaf.id with
  | none => rfl
  | some handler => rfl

/-- What a context holds under a key after a node has run a leaf: `all` is what the leaf delivers,
`ends` tells whether it is a fallback node. -/
def heldAfterLeaf (ends : Bool) (all : Dict Json) (before : Context) (key : String) : Option Json :=
  if key = Key.actionParameters then none
  else if key = Key.fallback ∧ ends then some (.bool true)
  else if key = Key.previousResult then some (stored (Json.ofDict all))
  else match all.get? key with
    | some value => some (stored value)
    | none => before.get? key

theorem get?_markFallback (context : Context) (key : String) :
    (markFallback context).get? key =
      if Key.fallback = key then some (.bool true) else context.get? key := by
  rw [markFallback, get?_set, stored_of_small (by decide)]

section After

variable (action : NodeAction) (leaf : DataFlowNode) (outputs : Dict Json) (context : Context)

theorem contextAfterLeaf_correlationId :
    (contextAfterLeaf action leaf outputs context).correlationId = context.correlationId :=
  (Leaves.deliver_correlationId _ _).trans (withParameters_correlationId action context)

theorem held_contextAfterLeaf (key : String) :
    (contextAfterLeaf action leaf outputs context).get? key =
      heldAfterLeaf false (Leaves.complete leaf outputs) context key := by
  rw [get?_contextAfterLeaf, heldAfterLeaf, delivered]
  simp only [eq_comm (a := key), Bool.false_eq_true, and_false, if_false]
  by_cases parameters : Key.actionParameters = key
  · rw [if_pos parameters, if_pos parameters]
  · rw [if_neg parameters, if_neg parameters]
    by_cases result : Key.previousResult = key
    · rw [if_pos result, if_pos result, Option.some_or]
    · rw [if_neg result, if_neg result]
      cases (Leaves.complete leaf outputs).get? key with
      | none => rfl
      | some value => rfl

theorem held_markFallback (key : String) :
    (markFallback (contextAfterLeaf action leaf outputs context)).get? key =
      heldAfterLeaf true (Leaves.complete leaf outputs) context key := by
  rw [get?_markFallback, held_contextAfterLeaf, heldAfterLeaf, heldAfterLeaf]
  simp only [and_true, Bool.false_eq_true, and_false, if_false]
  by_cases flag : Key.fallback = key
  · have notParameters : key ≠ Key.actionParameters := by
      rw [← flag]
      decide
    rw [if_pos flag, if_neg notParameters, if_pos flag.symm]
  · rw [if_neg flag, if_neg (Ne.symm flag)]

end After

namespace Executor

/-- An action or a fallback node runs the leaf that its target names. Unless the request is
cancelled, it ends as the leaf answers, at once or after as long a wait as there may be: with the
error of the leaf and no context, or well. Then its context holds what `heldAfterLeaf` tells, under
every key; and an action goes on to its children in their order, a fallback node nowhere. -/
theorem leaf_node_effect (executor : Executor) {node : DecisionNode} {action : NodeAction}
    {leaf : DataFlowNode}
    (behavior : node.behavior = .action action ∨ node.behavior = .fallback action)
    (resolved : executor.registry.dataFlow? action.target = some leaf) (context : Context)
    (now : Timestamp) :
    (match executor.leaves.answer leaf (withParameters action context) with
      | .ok outputs => ∃ all after, Completes leaf outputs all ∧
        (executor.execute false now node context).1 =
          .ok ⟨after, if node.kind = .fallback then [] else node.children⟩ ∧
        after.correlationId = context.correlationId ∧
        ∀ key, after.get? key = heldAfterLeaf (node.kind = .fallback) all context key
      | .error error => (executor.execute false now node context).1 = .error (.leaf error)) ∧
    (∀ later run effects, executor.begin false now node context = (.inr run, effects) →
      (executor.finish false later run).1 = (executor.execute false now node context).1) ∧
    (executor.execute true now node context).1 = .error .cancelled := by
  have handedOut : (executor.enter node context).1 =
      .handedOut (.leaf leaf (withParameters action context)) := enter_leaf behavior resolved
  refine ⟨?_, ?_, ?_⟩
  · rw [execute_outcome, outcome_of_leaf handedOut, leafResult, ← Leaves.outcome_reply]
    cases (executor.leaves.reply leaf (withParameters action context)).outcome with
    | error error => rfl
    | ok outputs =>
      have completes := Leaves.complete_completes leaf outputs
      have sameId := contextAfterLeaf_correlationId action leaf outputs context
      rcases behavior with acts | falls
      · have kind : node.kind = .action := congrArg Behavior.kind acts
        rw [proceed_of_works (.inl kind), kind]
        exact ⟨_, _, completes, rfl, sameId, held_contextAfterLeaf action leaf outputs context⟩
      · have kind : node.kind = .fallback := congrArg Behavior.kind falls
        rw [proceed_fallback falls, kind]
        exact ⟨_, _, completes, rfl, sameId, held_markFallback action leaf outputs context⟩
  · intro later run effects began
    have waits := executor.begin_outcome false now node context
    rw [began] at waits
    obtain ⟨rfl, rfl, entered⟩ := waits
    rw [finish_outcome entered, execute_outcome]
  · rw [execute_outcome]
    exact outcome_stopped handedOut

namespace Sample

def rescue : DecisionNode where
  id := "rescue"
  behavior := .fallback ⟨.fallback, "rescuer", [⟨"style", .str "plain"⟩]⟩
  children := ["elsewhere"]

def rescuer : DataFlowNode where
  id := "rescuer"
  kind := .fallback
  outputs := ["reply", "advice"]

def outputs : Dict Json :=
  Dict.ofList [(Key.actionParameters, .str "mine"), (Key.fallback, .bool false),
    (Key.previousResult, .str "mine"), ("reply", .str "back soon")]

def rescuing : Executor :=
  { executor { root := "rescue", dataFlowNodes := [rescuer], decisionNodes := [rescue] } with
    leaves := {
      handlers := Dict.empty.insert "rescuer" fun _ _ => { outcome := .ok outputs }
      validateInputs := false } }

end Sample

theorem rescue_leaf_effect :
    (∃ action, Sample.rescue.behavior = .fallback action ∧
      Sample.rescuing.registry.dataFlow? action.target = some Sample.rescuer ∧
      Sample.rescuing.leaves.answer Sample.rescuer (withParameters action Sample.context) =
        .ok Sample.outputs) ∧
    ∃ all after, Completes Sample.rescuer Sample.outputs all ∧
      (Sample.rescuing.execute false default Sample.rescue Sample.context).1 = .ok ⟨after, []⟩ ∧
      after.get? Key.actionParameters = none ∧ after.get? Key.fallback = some (.bool true) ∧
      after.get? Key.previousResult = some (stored (Json.ofDict all)) ∧
      after.get? "reply" = some (stored (.str "back soon")) ∧
      after.get? "advice" = some (stored (.str "advice_result")) := by
  have effect := (@leaf_node_effect Sample.rescuing Sample.rescue _ Sample.rescuer (Or.inr rfl) rfl
    Sample.context default).1
  obtain ⟨all, after, completes, ended, -, held⟩ := effect
  refine ⟨⟨_, rfl, rfl, rfl⟩, all, after, completes, ended, held _, held _, held _, ?_, ?_⟩
  · rw [held, heldAfterLeaf, completes]
    rfl
  · rw [held, heldAfterLeaf, completes]
    rfl

end Executor

end Switchyard
