import Switchyard.Proofs.Execution.Safety
import Switchyard.Proofs.Execution.SizeLimit
set_option autoImplicit false

/-! The parameters that leaves see. The context of a leaf holds the parameters of its own action,
and every leaf takes away whatever stands in their place. What a request says in that place itself
stays there until then, and is what the first leaf sees if its action has no parameters. Main
statements: `leaf_sees_parameters`, `request_forges_parameters`. -/
namespace Switchyard

open Context

theorem NodeAction.get?_parameterMap (action : NodeAction) (key : String) :
    action.parameterMap.get? key = action.parameter? key := by
  have held : ∀ (parameters : List ActionParameter) (dict : Dict Json),
      (parameters.foldl (fun dict parameter =>
        if dict.contains parameter.key then dict
        else dict.insert parameter.key parameter.value) dict).get? key =
      (dict.get? key).or
        ((parameters.find? fun parameter => parameter.key == key).map (·.value)) := by
    intro parameters
    induction parameters with
    | nil =>
      intro dict
      simp
    | cons parameter rest ih =>
      intro dict
      rw [List.foldl_cons, ih, List.find?_cons]
      by_cases same : parameter.key = key
      · subst same
        cases found : dict.get? parameter.key with
        | none => simp [Dict.contains, found]
        | some value => simp [Dict.contains, found]
      · have other : (parameter.key == key) = false := beq_false_of_ne same
        rw [other]
        cases dict.contains parameter.key <;> simp [Dict.get?_insert, same]
  rw [parameterMap, held, Dict.get?_empty, Option.none_or, parameter?]

theorem field?_parametersObject (action : NodeAction) (key : String) :
    (parametersObject action).field? key = action.parameter? key :=
  action.get?_parameterMap key

/-- The parameters after a node that ends well: gone if it has run a leaf, and otherwise what they
were. -/
theorem Executor.Leaves.parameters {executor : Executor} {node : DecisionNode} {context : Context}
    {outcome : NodeOutcome} (leaves : executor.Leaves node context outcome) :
    outcome.context.get? Key.actionParameters =
      if (executor.registry.leafOf node).isSome then none
      else context.get? Key.actionParameters := by
  have kept : ∀ (context : Context) {key : String} (value : Json), Key.actionParameters ≠ key →
      (context.set key value).get? Key.actionParameters = context.get? Key.actionParameters := by
    intro context key value different
    rw [get?_set, if_neg (Ne.symm different)]
  unfold Registry.leafOf
  cases leaves with
  | decided behavior _ => simp [behavior]
  | passed behavior unresolved => simp [behavior, unresolved]
  | ran behavior resolved _ =>
    simp only [behavior, resolved, Option.map_some, Option.isSome_some, if_true]
    exact contextAfterLeaf_parameters _ _ _ _
  | asked behavior _ =>
    simp only [behavior, Option.isSome_none, Bool.false_eq_true, if_false]
    exact kept _ _ (by decide)
  | apologised behavior unresolved =>
    rw [markFallback, kept _ _ (by decide), kept _ _ (by decide)]
    simp [behavior, unresolved]
  | fellBack behavior resolved _ =>
    rw [markFallback, kept _ _ (by decide)]
    simp only [behavior, resolved, Option.map_some, Option.isSome_some, if_true]
    exact contextAfterLeaf_parameters _ _ _ _

def Registry.hasRunLeaf (registry : Registry) (begun : List Sighting) : Bool :=
  begun.any fun sighting => (registry.leafOf sighting.node).isSome

theorem Registry.hasRunLeaf_concat (registry : Registry) (begun : List Sighting)
    (sighting : Sighting) :
    registry.hasRunLeaf (begun ++ [sighting]) =
      (registry.hasRunLeaf begun || (registry.leafOf sighting.node).isSome) := by
  rw [hasRunLeaf, List.any_append, List.any_cons, List.any_nil, Bool.or_false, hasRunLeaf]

/-- What stands in the place of the parameters between two nodes: what the request says there until
a leaf has run, and nothing from then on. -/
theorem kept_parameters (executor : Executor) (initial : Option Json) :
    Kept executor fun begun context => context.get? Key.actionParameters =
      if executor.registry.hasRunLeaf begun then none else initial := by
  intro begun node given outcome held leaves
  rw [leaves.parameters, held, Registry.hasRunLeaf_concat]
  cases (executor.registry.leafOf node).isSome <;> simp

theorem withParameters_parameters (action : NodeAction) (context : Context) :
    (withParameters action context).get? Key.actionParameters =
      if action.parameters.isEmpty then context.get? Key.actionParameters
      else some (stored (parametersObject action)) := by
  unfold withParameters
  split
  · rfl
  · rw [get?_set, if_pos rfl]

section Leaf

variable {controller : Controller} {request : Request} {told : List (Timestamp × Bool)}
  {earlier later : List Sighting} {sighting : Sighting} {leaf : DataFlowNode} {handed : Context}

/-- What a leaf sees as its parameters: those of the action that it runs for, the first value under
every key, or the marker of their size if they are too large. If the action has none, the leaf sees
none, unless no leaf has run before in the same walk: then it sees what the request says in their
place. Nothing of another action or of an earlier leaf is ever there. -/
theorem leaf_sees_parameters
    (comes : (Walk.start controller.root (Controller.prepare request)).sightsAlong
      controller.executor told = earlier ++ sighting :: later)
    (handedOut : (controller.executor.enter sighting.node sighting.given).1 =
      .handedOut (.leaf leaf handed)) :
    ∃ action,
      (sighting.node.behavior = .action action ∨ sighting.node.behavior = .fallback action) ∧
      controller.executor.registry.dataFlow? action.target = some leaf ∧
      (∀ key, (parametersObject action).field? key = action.parameter? key) ∧
      handed.get? Key.actionParameters =
        if action.parameters.isEmpty then
          if controller.executor.registry.hasRunLeaf earlier then none
          else (request.says? Key.actionParameters).map stored
        else some (stored (parametersObject action)) := by
  obtain ⟨action, runs, rfl⟩ := Executor.leafOf_of_enter handedOut
  obtain ⟨behavior, resolved⟩ := Registry.leafOf_eq_some_iff.mp runs
  refine ⟨action, behavior, resolved, field?_parametersObject action, ?_⟩
  have begins : (Controller.prepare request).get? Key.actionParameters =
      if controller.executor.registry.hasRunLeaf [] then none
      else (request.says? Key.actionParameters).map stored :=
    Controller.get?_prepare_of_ne request (by decide)
  obtain ⟨shown, -⟩ := (kept_parameters controller.executor _).along begins told
  rw [withParameters_parameters, shown earlier sighting later comes]

end Leaf

namespace Executor.Sample

def probe : GraphDefinition where
  root := "act"
  dataFlowNodes := [{ id := "probe", kind := .processor }]
  decisionNodes := [{ id := "act", behavior := .action ⟨.activate, "probe", []⟩ }]

def controller (graph : GraphDefinition) : Controller where
  executor := executor graph
  legacy := TemplateLegacy.respond
  strategy := .graceful
  enabled := true

def forgery : Request where
  correlationId := "r"
  input := .obj [(Key.actionParameters, .obj [("style", .str "forged")])]
  context := Dict.empty

end Executor.Sample

theorem forged_leaf_sees_parameters :
    let controller := Executor.Sample.controller Executor.Sample.probe
    let request := Executor.Sample.forgery
    ∃ sighting leaf handed action,
      (Walk.start controller.root (Controller.prepare request)).sightsAlong
        controller.executor (Executor.Sample.moments 2) = [sighting] ∧
      (controller.executor.enter sighting.node sighting.given).1 =
        .handedOut (.leaf leaf handed) ∧
      controller.executor.registry.dataFlow? action.target = some leaf ∧
      handed.get? Key.actionParameters =
        if action.parameters.isEmpty then (request.says? Key.actionParameters).map stored
        else some (stored (parametersObject action)) := by
  intro controller request
  have one : ∃ sighting leaf handed,
      (Walk.start controller.root (Controller.prepare request)).sightsAlong
        controller.executor (Executor.Sample.moments 2) = [] ++ sighting :: [] ∧
      (controller.executor.enter sighting.node sighting.given).1 =
        .handedOut (.leaf leaf handed) := ⟨_, _, _, rfl, rfl⟩
  obtain ⟨sighting, leaf, handed, comes, handedOut⟩ := one
  obtain ⟨action, -, resolved, -, sees⟩ := leaf_sees_parameters comes handedOut
  exact ⟨sighting, leaf, handed, action, comes, handedOut, resolved, sees⟩

/-- An action without parameters, run for a request that says for itself what they are: its leaf
finds the parameters that the request has made up. -/
theorem request_forges_parameters :
    let controller := Executor.Sample.controller Executor.Sample.probe
    ∃ sighting leaf handed action,
      (Walk.start controller.root (Controller.prepare Executor.Sample.forgery)).sightsAlong
        controller.executor (Executor.Sample.moments 2) = [sighting] ∧
      (controller.executor.enter sighting.node sighting.given).1 =
        .handedOut (.leaf leaf handed) ∧
      sighting.node.behavior = .action action ∧ action.parameters = [] ∧
      handed.get? Key.actionParameters = some (.obj [("style", .str "forged")]) :=
  ⟨_, _, _, _, rfl, rfl, rfl, rfl, rfl⟩

end Switchyard
