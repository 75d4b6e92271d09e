import Switchyard.Proofs.Builtin.Response
import Switchyard.Proofs.Context.Reachable
import Switchyard.Proofs.Execution.Parameters
set_option autoImplicit false

/-! The parameters of an action are looked at in two ways: a leaf finds them as an object in its
context, and what a capability is asked for is made from the list itself. Main statements:
`parameter_views_agree`, both find the same under every key as long as the object fits into a
context; `long_parameters_are_hidden`, one that does not fit is hidden from the leaf alone. -/
namespace Switchyard

open Context

/-- The fields are exactly what the parameters of an action are under their keys. -/
structure NodeAction.ListedBy (action : NodeAction) (fields : List (String × Json)) : Prop where
  distinct : (fields.map Prod.fst).Nodup
  listed : ∀ key value, (key, value) ∈ fields ↔ action.parameter? key = some value

theorem NodeAction.listedBy_parameterMap (action : NodeAction) :
    action.ListedBy action.parameterMap.entries where
  distinct := action.parameterMap.keys_nodup
  listed key value := by rw [← Dict.get?_eq_some_iff, get?_parameterMap]

/-- What a leaf finds under a key among the parameters in its context. -/
def Context.shown? (context : Context) (key : String) : Option Json :=
  (context.get? Key.actionParameters).bind (·.field? key)

/-- What a capability is told to mind, by a way to read parameters. -/
def LoadHints.of (read : String → Option Json) (expectedMs : UInt64) : LoadHints where
  qualityMode := (read "quality_mode").bind Json.asText?
  maxLatencyMs := ((read "max_latency_ms").bind Json.uint64?).or
    (if 0 < expectedMs then some expectedMs else none)
  budget := (read "budget").bind Json.asFloat?

namespace Executor

variable {executor : Executor} {action : NodeAction}

/-- Some node hands this context to the leaf that it runs for an action. -/
def Hands (executor : Executor) (action : NodeAction) (handed : Context) : Prop :=
  ∃ node given leaf, (node.behavior = .action action ∨ node.behavior = .fallback action) ∧
    (executor.enter node given).1 = .handedOut (.leaf leaf handed)

/-- Some node of such an expected time asks this for an action. -/
def Asks (executor : Executor) (action : NodeAction) (expectedMs : UInt64)
    (request : CapabilityRequest) : Prop :=
  ∃ node given kept, node.behavior = .capability action ∧ node.metadata.expectedMs = expectedMs ∧
    (executor.enter node given).1 = .handedOut (.capability request kept)

theorem Hands.parameters {handed : Context} (hands : executor.Hands action handed)
    (any : action.parameters ≠ []) :
    handed.get? Key.actionParameters = some (stored (parametersObject action)) := by
  obtain ⟨node, given, leaf, behavior, handedOut⟩ := hands
  obtain ⟨runs, ran, rfl⟩ := leafOf_of_enter handedOut
  obtain ⟨behaviorToo, -⟩ := Registry.leafOf_eq_some_iff.mp ran
  have same : runs = action := by
    rcases behavior with one | one <;> rcases behaviorToo with other | other <;>
      rw [one] at other <;> cases other <;> rfl
  subst same
  rw [withParameters_parameters, if_neg]
  rwa [List.isEmpty_iff]

theorem Asks.loadHints {expectedMs : UInt64} {request : CapabilityRequest}
    (asks : executor.Asks action expectedMs request) :
    request.loadHints = LoadHints.of action.parameter? expectedMs := by
  obtain ⟨node, given, kept, behavior, rfl, handedOut⟩ := asks
  rw [enter, behavior] at handedOut
  cases handedOut
  rfl

end Executor

/-- The object of an action's parameters has exactly their keys, and under each of them what the list
has. So a leaf that runs for an action with parameters and a capability that is asked on behalf of the
same action find the same, as long as the object is not too large for a context. Otherwise the leaf
finds its size instead. -/
theorem parameter_views_agree (action : NodeAction) :
    (∃ fields, parametersObject action = .obj fields ∧ action.ListedBy fields) ∧
    (∀ key, (parametersObject action).field? key = action.parameter? key) ∧
    (∀ (executor : Executor) expectedMs request, executor.Asks action expectedMs request →
      request.loadHints = LoadHints.of (parametersObject action).field? expectedMs) ∧
    ∀ (executor : Executor) handed, action.parameters ≠ [] → executor.Hands action handed →
      if (parametersObject action).size ≤ sizeLimit then
        (∀ key, handed.shown? key = action.parameter? key) ∧
        ∀ (other : Executor) expectedMs request, other.Asks action expectedMs request →
          request.loadHints = LoadHints.of handed.shown? expectedMs
      else handed.get? Key.actionParameters =
        some (truncationMarker (parametersObject action).size) := by
  have read : (parametersObject action).field? = action.parameter? :=
    funext (field?_parametersObject action)
  refine ⟨⟨_, rfl, action.listedBy_parameterMap⟩, congrFun read, ?_, ?_⟩
  · intro executor expectedMs request asks
    rw [asks.loadHints, read]
  · intro executor handed any hands
    have found := hands.parameters any
    split
    · rename_i small
      have shown : handed.shown? = action.parameter? := by
        funext key
        rw [shown?, found, stored_of_small small, Option.bind_some, read]
      refine ⟨congrFun shown, ?_⟩
      intro other expectedMs request asks
      rw [asks.loadHints, shown]
    · rename_i large
      rw [found, stored_of_large (Nat.not_le.mp large)]

namespace Executor.Sample

def twice (action : NodeAction) : GraphDefinition where
  root := "ask"
  dataFlowNodes := [{ id := "probe", kind := .processor }]
  decisionNodes := [{ id := "ask", behavior := .capability action, children := ["act"] },
    { id := "act", behavior := .action action }]

theorem twice_hands (action : NodeAction) (target : action.target = "probe") (given : Context) :
    (executor (twice action)).Hands action (withParameters action given) := by
  obtain ⟨type, _, parameters⟩ := action
  subst target
  exact ⟨{ id := "act", behavior := .action _ }, given, _, Or.inl rfl, rfl⟩

theorem twice_asks (action : NodeAction) (given : Context) :
    (executor (twice action)).Asks action 0
      (capabilityRequest { id := "ask", behavior := .capability action } action given) :=
  ⟨{ id := "ask", behavior := .capability action }, given, given, rfl, rfl, rfl⟩

def repeated : NodeAction := ⟨.activate, "probe",
  [⟨"quality_mode", .str "enhanced"⟩, ⟨"budget", .null⟩, ⟨"quality_mode", .str "standard"⟩]⟩

def wordy (count : Nat) : NodeAction := ⟨.activate, "probe",
  [⟨"note", .str (Builtin.word count)⟩, ⟨"quality_mode", .str "enhanced"⟩]⟩

theorem size_wordy (count : Nat) : count < (parametersObject (wordy count)).size := by
  have note : ("note", Json.str (Builtin.word count)) ∈ (wordy count).parameterMap.entries :=
    ((wordy count).listedBy_parameterMap.listed _ _).mpr rfl
  have whole := Json.size_le_of_mem _ note
  have long := Builtin.size_word "" count
  have quotes : (Json.str "").size = 2 := by decide
  rw [String.empty_append, quotes] at long
  rw [parametersObject, Json.ofDict]
  dsimp only at whole
  omega

end Executor.Sample

open Executor.Sample in
theorem repeated_parameter_views_agree :
    let handed := withParameters repeated context
    let request :=
      capabilityRequest { id := "ask", behavior := .capability repeated } repeated context
    repeated.parameters ≠ [] ∧ (executor (twice repeated)).Hands repeated handed ∧
    (executor (twice repeated)).Asks repeated 0 request ∧
    (parametersObject repeated).size ≤ sizeLimit ∧
    handed.shown? "quality_mode" = some (.str "enhanced") ∧
    handed.shown? "budget" = some .null ∧
    request.loadHints = LoadHints.of handed.shown? 0 := by
  intro handed request
  have any : repeated.parameters ≠ [] := List.cons_ne_nil _ _
  have hands := twice_hands repeated rfl context
  have asks := twice_asks repeated context
  have small : (parametersObject repeated).size ≤ sizeLimit := by decide +kernel
  obtain ⟨-, -, -, seen⟩ := parameter_views_agree repeated
  have seen := seen _ handed any hands
  rw [if_pos small] at seen
  obtain ⟨shown, hinted⟩ := seen
  exact ⟨any, hands, asks, small, shown _, shown _, hinted _ _ _ asks⟩

open Executor.Sample in
/-- A capability is told about a parameter that the leaf of the same action does not find. -/
theorem long_parameters_are_hidden :
    let action := wordy sizeLimit
    ∃ handed request, (executor (twice action)).Hands action handed ∧
      (executor (twice action)).Asks action 0 request ∧
      action.parameter? "quality_mode" = some (.str "enhanced") ∧
      request.loadHints.qualityMode = some "enhanced" ∧
      handed.shown? "quality_mode" = none := by
  intro action
  have hands := twice_hands action rfl context
  have found := hands.parameters (List.cons_ne_nil _ _)
  refine ⟨_, _, hands, twice_asks action context, rfl, rfl, ?_⟩
  rw [shown?, found, stored_of_large (size_wordy sizeLimit)]
  rfl

end Switchyard
