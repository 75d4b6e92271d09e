import Switchyard.Proofs.Context.Values
import Switchyard.Proofs.Execution.Outcome
set_option autoImplicit false

/-! What a context holds after a leaf: the outputs of the leaf, the placeholders of those it has
left out, and all of them together; the parameters of the action are gone again. -/
namespace Switchyard

namespace Leaves

theorem get?_complete (node : DataFlowNode) (outputs : Dict Json) (key : String) :
    (complete node outputs).get? key =
      (outputs.get? key).or (if key ∈ node.outputs then some (placeholder key) else none) := by
  unfold complete
  generalize node.outputs = declared
  induction declared generalizing outputs with
  | nil => simp
  | cons name rest ih =>
    rw [List.foldl_cons, ih]
    by_cases same : name = key
    · subst same
      cases found : outputs.get? name with
      | none =>
        have absent : outputs.contains name = false := by rw [Dict.contains, found]; rfl
        simp [absent]
      | some value =>
        have present : outputs.contains name = true := by rw [Dict.contains, found]; rfl
        simp [present, found]
    · have different : key ≠ name := Ne.symm same
      cases outputs.contains name <;> simp [Dict.get?_insert, same, different]

/-- Whatever its leaves answer can be written down. -/
def Proper (leaves : Leaves) : Prop :=
  ∀ (node : DataFlowNode) (context : Context) (outputs : Dict Json),
    (leaves.reply node context).outcome = .ok outputs →
      ∀ key value, outputs.get? key = some value → value.Proper

theorem proper_complete {node : DataFlowNode} {outputs : Dict Json}
    (proper : ∀ key value, outputs.get? key = some value → value.Proper) :
    ∀ key value, (complete node outputs).get? key = some value → value.Proper := by
  intro key value found
  rw [get?_complete] at found
  rcases Option.or_eq_some_iff.mp found with output | ⟨-, added⟩
  · exact proper key value output
  · split at added
    · rw [← Option.some.inj added]
      exact Json.proper_str _
    · cases added

end Leaves

theorem get?_withParameters_of_ne (action : NodeAction) (context : Context) {key : String}
    (different : Context.Key.actionParameters ≠ key) :
    (withParameters action context).get? key = context.get? key := by
  unfold withParameters
  split
  · rfl
  · rw [Context.get?_set, if_neg different]

def delivered (leaf : DataFlowNode) (outputs : Dict Json) (key : String) : Option Json :=
  if Context.Key.previousResult = key then
    some (Context.stored (Json.ofDict (Leaves.complete leaf outputs)))
  else ((Leaves.complete leaf outputs).get? key).map Context.stored

theorem get?_contextAfterLeaf (action : NodeAction) (leaf : DataFlowNode) (outputs : Dict Json)
    (context : Context) (key : String) :
    (contextAfterLeaf action leaf outputs context).get? key =
      if Context.Key.actionParameters = key then none
      else (delivered leaf outputs key).or (context.get? key) := by
  unfold contextAfterLeaf Leaves.deliver delivered
  rw [Context.get?_remove]
  by_cases parameters : Context.Key.actionParameters = key
  · rw [if_pos parameters, if_pos parameters]
  · rw [if_neg parameters, if_neg parameters, Context.get?_set, Context.get?_merge,
      get?_withParameters_of_ne action context parameters]
    split <;> rfl

theorem contextAfterLeaf_parameters (action : NodeAction) (leaf : DataFlowNode)
    (outputs : Dict Json) (context : Context) :
    (contextAfterLeaf action leaf outputs context).get? Context.Key.actionParameters = none := by
  rw [get?_contextAfterLeaf, if_pos rfl]

def Context.Keeps (keys : List String) (before after : Context) : Prop :=
  ∀ key ∈ keys, after.get? key = before.get? key

theorem keeps_set {keys : List String} {key : String} (free : key ∉ keys) (context : Context)
    (value : Json) : Context.Keeps keys context (context.set key value) := by
  intro other told
  have different : key ≠ other := by
    rintro rfl
    exact free told
  rw [Context.get?_set, if_neg different]

theorem keeps_withParameters {keys : List String} (free : Context.Key.actionParameters ∉ keys)
    (action : NodeAction) (context : Context) :
    Context.Keeps keys context (withParameters action context) := by
  unfold withParameters
  split
  · exact fun _ _ => rfl
  · exact keeps_set free context _

theorem keeps_contextAfterLeaf {keys : List String} (noParameters : Context.Key.actionParameters ∉ keys)
    (noResult : Context.Key.previousResult ∉ keys) (action : NodeAction) {leaf : DataFlowNode}
    {outputs : Dict Json} (undeclared : ∀ key ∈ keys, key ∉ leaf.outputs)
    (unanswered : ∀ key ∈ keys, outputs.get? key = none) (context : Context) :
    Context.Keeps keys context (contextAfterLeaf action leaf outputs context) := by
  intro key told
  have notParameters : Context.Key.actionParameters ≠ key := by
    rintro rfl
    exact noParameters told
  have notResult : Context.Key.previousResult ≠ key := by
    rintro rfl
    exact noResult told
  have nothing : (Leaves.complete leaf outputs).get? key = none := by
    rw [Leaves.get?_complete, unanswered key told, if_neg (undeclared key told)]
    rfl
  rw [get?_contextAfterLeaf, if_neg notParameters, delivered, if_neg notResult, nothing]
  rfl

theorem proper_contextAfterLeaf (action : NodeAction) {leaf : DataFlowNode} {outputs : Dict Json}
    {context : Context} (proper : context.Proper)
    (answered : ∀ key value, outputs.get? key = some value → value.Proper) :
    (contextAfterLeaf action leaf outputs context).Proper := by
  have complete : ∀ key value, (Leaves.complete leaf outputs).get? key = some value →
      value.Proper := Leaves.proper_complete answered
  intro key value found
  rw [get?_contextAfterLeaf] at found
  split at found
  · cases found
  · rcases Option.or_eq_some_iff.mp found with new | ⟨-, old⟩
    · unfold delivered at new
      split at new
      · rw [← Option.some.inj new]
        exact Context.proper_stored (Json.proper_ofDict complete)
      · obtain ⟨output, held, rfl⟩ := Option.map_eq_some_iff.mp new
        exact Context.proper_stored (complete key output held)
    · exact proper key value old

theorem Executor.Leaves.proper {executor : Executor} (answers : executor.leaves.Proper)
    {node : DecisionNode} {context : Context} {outcome : NodeOutcome}
    (leaves : executor.Leaves node context outcome) (proper : context.Proper) :
    outcome.context.Proper := by
  cases leaves with
  | decided _ _ => exact proper
  | passed _ _ => exact proper
  | ran _ _ replied => exact proper_contextAfterLeaf _ proper (answers _ _ _ replied)
  | asked _ _ => exact proper.set _ (CapabilityDecision.proper_toJson _)
  | apologised _ _ => exact (proper.set _ (Json.proper_str _)).set _ (Json.proper_bool true)
  | fellBack _ _ replied =>
    exact (proper_contextAfterLeaf _ proper (answers _ _ _ replied)).set _ (Json.proper_bool true)

/-! What a walk starts with. -/

/-- What a request says under a key: its input, or else its caller. -/
def Request.says? (request : Request) (key : String) : Option Json :=
  (Dict.lookup key (Context.inputEntries request.input)).or (request.context.get? key)

theorem Controller.get?_prepare_of_ne (request : Request) {key : String}
    (different : Context.Key.orchestrationEnabled ≠ key) :
    (Controller.prepare request).get? key = (request.says? key).map Context.stored := by
  rw [Controller.prepare, Context.get?_set, if_neg different, Context.get?_ofRequest,
    Request.says?]

/-! The leaf that a node runs. -/

/-- The action that a node runs a leaf for, and the leaf: conditions and capability nodes run none,
and neither does a node whose target nobody has registered. -/
def Registry.leafOf (registry : Registry) (node : DecisionNode) :
    Option (NodeAction × DataFlowNode) :=
  match node.behavior with
  | .action action | .fallback action => (registry.dataFlow? action.target).map (action, ·)
  | .condition .. | .capability _ => none

theorem Registry.leafOf_eq_some_iff {registry : Registry} {node : DecisionNode}
    {action : NodeAction} {leaf : DataFlowNode} :
    registry.leafOf node = some (action, leaf) ↔
      (node.behavior = .action action ∨ node.behavior = .fallback action) ∧
        registry.dataFlow? action.target = some leaf := by
  unfold leafOf
  cases node.behavior with
  | condition _ _ _ | capability _ => simp
  | action work | fallback work =>
    simp only [Option.map_eq_some_iff, Prod.mk.injEq]
    constructor
    · rintro ⟨found, resolved, rfl, rfl⟩
      simp [resolved]
    · rintro ⟨same, resolved⟩
      simp only [Behavior.action.injEq, Behavior.fallback.injEq, reduceCtorEq, or_false,
        false_or] at same
      subst same
      exact ⟨leaf, resolved, rfl, rfl⟩

namespace Executor

variable {executor : Executor} {node : DecisionNode} {context : Context}

theorem enter_of_leafOf {action : NodeAction} {leaf : DataFlowNode}
    (runs : executor.registry.leafOf node = some (action, leaf)) :
    (executor.enter node context).1 = .handedOut (.leaf leaf (withParameters action context)) := by
  obtain ⟨behavior, resolved⟩ := Registry.leafOf_eq_some_iff.mp runs
  exact enter_leaf behavior resolved

theorem leafOf_of_enter {leaf : DataFlowNode} {handed : Context}
    (handedOut : (executor.enter node context).1 = .handedOut (.leaf leaf handed)) :
    ∃ action, executor.registry.leafOf node = some (action, leaf) ∧
      handed = withParameters action context := by
  rcases executor.handedOut_cases handedOut with
    ⟨action, found, behavior, resolved, same⟩ | ⟨action, -, impossible⟩
  · obtain ⟨rfl, rfl⟩ := Work.leaf.inj same
    exact ⟨action, Registry.leafOf_eq_some_iff.mpr ⟨behavior, resolved⟩, rfl⟩
  · cases impossible

end Executor

end Switchyard
