import Switchyard.Proofs.Engine.Cancellation
import Switchyard.Proofs.Engine.Decisions
import Switchyard.Proofs.Execution.Delivery
import Switchyard.Proofs.Execution.Safety
import Switchyard.Proofs.Execution.Sightings
import Switchyard.Proofs.Registry.Accepted
import Switchyard.Proofs.Trace.Activations
set_option autoImplicit false

/-! The log of activations beside the traces. A node that runs a leaf logs an activation under the
leaf in the same step in which it writes its record, whether the leaf answers, fails or is
cancelled; no other node does. Requests mix in the log of a leaf, but those of one correlation id
stay in the order of its trace. Main statement: `activations_agree_with_traces`. -/
namespace Switchyard

/-! Records of leaves. -/

/-- A record names what an action does and on what, so that both can be read off it. -/
theorem NodeAction.describe_eq_iff (action : NodeAction) (type : ActionType) (target : String) :
    action.describe ":" = type.name ++ ":" ++ target ↔
      action.type = type ∧ action.target = target := by
  constructor
  · intro same
    have letters := congrArg String.toList same
    obtain ⟨own, aim, parameters⟩ := action
    cases own <;> cases type <;>
      simp [describe, ActionType.name, String.toList_append] at letters ⊢
    all_goals exact String.toList_inj.mp letters
  · rintro ⟨rfl, rfl⟩
    rfl

def TraceRecord.aimsAt (record : TraceRecord) (target : String) : Bool :=
  (record.nodeKind = .action || record.nodeKind = .fallback) &&
    ActionType.all.any fun type => record.action = type.name ++ ":" ++ target

def Registry.tellsOf (registry : Registry) (leafId : String) (record : TraceRecord) : Bool :=
  (registry.dataFlow? leafId).isSome && record.aimsAt leafId

/-- The activation that goes with the record of a node that runs a leaf: it ended when the node did
and took as long, and it was a success exactly if the record has no errors. -/
def TraceRecord.activation (record : TraceRecord) : NodeActivation where
  correlationId := record.correlationId
  timestamp := record.performance.endTime
  latencyMs := record.performance.latencyMs
  success := record.errors.isEmpty

section Node

variable {executor : Executor} {node : DecisionNode} {before : Context}

/-- The record of a node tells of the leaf that the node runs, if it runs one, and of no other. -/
theorem tellsOf_iff (accepted : executor.registry.Accepted) {record : TraceRecord}
    (kind : record.nodeKind = node.kind) (text : record.action = node.behavior.describe)
    (leafId : String) :
    executor.registry.tellsOf leafId record = true ↔
      ∃ action leaf, executor.registry.leafOf node = some (action, leaf) ∧ leaf.id = leafId := by
  have aims : record.aimsAt leafId = true ↔ ∃ action,
      (node.behavior = .action action ∨ node.behavior = .fallback action) ∧
        action.target = leafId := by
    unfold TraceRecord.aimsAt
    rw [kind, text, DecisionNode.kind]
    cases node.behavior with
    | condition _ _ _ | capability _ => simp [Behavior.kind]
    | action action | fallback action =>
      simp [Behavior.kind, Behavior.describe, NodeAction.describe_eq_iff]
      cases action.type <;> simp [ActionType.all]
  rw [Registry.tellsOf, Bool.and_eq_true, aims, Option.isSome_iff_exists]
  constructor
  · rintro ⟨⟨leaf, known⟩, action, behavior, rfl⟩
    exact ⟨action, leaf, Registry.leafOf_eq_some_iff.mpr ⟨behavior, known⟩,
      accepted.dataFlow_keyed _ _ known⟩
  · rintro ⟨action, leaf, runs, rfl⟩
    obtain ⟨behavior, resolved⟩ := Registry.leafOf_eq_some_iff.mp runs
    have same : leaf.id = action.target := accepted.dataFlow_keyed _ _ resolved
    exact ⟨⟨leaf, by rw [same]; exact resolved⟩, action, behavior, same.symm⟩

/-- What a node that is done logs: one record, and the activation that goes with it if the node runs
a leaf. -/
def Executor.Logs (executor : Executor) (node : DecisionNode) (before : Context)
    (effects : List Effect) : Prop :=
  ∃ record : TraceRecord, effects.filterMap Effect.record? = [record] ∧
    record.correlationId = before.correlationId ∧ record.nodeKind = node.kind ∧
    record.action = node.behavior.describe ∧
    effects.filterMap Effect.activation? =
      ((executor.registry.leafOf node).map fun run => (run.2.id, record.activation)).toList

theorem filterMap_activation?_of_quiet {effects : List Effect}
    (quiet : ∀ effect ∈ effects, effect.Quiet) : effects.filterMap Effect.activation? = [] :=
  Effect.filterMap_of_quiet (fun effect still => by cases effect <;> cases still <;> rfl) quiet

theorem Executor.Logs.after {quiet effects : List Effect}
    (logs : executor.Logs node before effects) (nothing : ∀ effect ∈ quiet, effect.Quiet) :
    executor.Logs node before (quiet ++ effects) := by
  obtain ⟨record, one, rest⟩ := logs
  refine ⟨record, ?_, ?_⟩
  · rw [List.filterMap_append, Effect.filterMap_record?_of_quiet nothing, one, List.nil_append]
  · rw [List.filterMap_append, filterMap_activation?_of_quiet nothing, List.nil_append]
    exact rest

theorem isOk_map {α β : Type} (change : α → β) (result : Except NodeError α) :
    (result.map change).isOk = result.isOk := by
  cases result <;> rfl

theorem activations_answer (executor : Executor) (work : Work) :
    (executor.answer work).2.filterMap Effect.activation? = [] := by
  have warned : ∀ list : List Warning,
      (Effect.warnings list).filterMap Effect.activation? = [] := by
    intro list
    exact filterMap_activation?_of_quiet fun effect inside => Effect.quiet_of_mem_warnings inside
  unfold Executor.answer
  cases work with
  | leaf leaf handed =>
    dsimp only
    split
    · exact warned _
    · rfl
  | capability request handed =>
    dsimp only
    split
    · rfl
    · split
      · rw [List.filterMap_append, warned]
        rfl
      · rfl

theorem activations_settle (executor : Executor) (cancelled : Bool) (startedAt now : Timestamp)
    (work : Work) :
    (executor.settle cancelled startedAt now work).2.filterMap Effect.activation? =
      (work.leaf?.map fun leaf => (leaf.id, {
        correlationId := work.context.correlationId
        timestamp := now
        latencyMs := UInt64.ofNat (now.millis - startedAt.millis).toNat
        success := (executor.settle cancelled startedAt now work).1.isOk })).toList := by
  have closes : ∀ result : Except NodeError Context,
      (Executor.close work startedAt now result).2.filterMap Effect.activation? =
        (work.leaf?.map fun leaf => (leaf.id, {
          correlationId := work.context.correlationId
          timestamp := now
          latencyMs := UInt64.ofNat (now.millis - startedAt.millis).toNat
          success := (Executor.close work startedAt now result).1.isOk })).toList := by
    intro result
    cases work with
    | leaf leaf handed =>
      have same : (Executor.close (.leaf leaf handed) startedAt now result).1.isOk = result.isOk :=
        isOk_map _ result
      rw [same]
      rfl
    | capability request handed => rfl
  cases cancelled with
  | true => exact closes (.error .cancelled)
  | false =>
    change ((executor.answer work).2 ++
      (Executor.close work startedAt now (executor.answer work).1).2).filterMap _ = _
    rw [List.filterMap_append, activations_answer, List.nil_append]
    exact closes (executor.answer work).1

theorem leaf?_of_handedOut {work : Work}
    (handedOut : (executor.enter node before).1 = .handedOut work) :
    work.leaf? = (executor.registry.leafOf node).map (·.2) := by
  cases work with
  | leaf leaf handed =>
    obtain ⟨action, runs, -⟩ := Executor.leafOf_of_enter handedOut
    rw [runs]
    rfl
  | capability request handed =>
    cases runs : executor.registry.leafOf node with
    | none => rfl
    | some run =>
      rw [Executor.enter_of_leafOf runs] at handedOut
      cases handedOut

theorem errors_recordOf (startedAt now : Timestamp) (decision : Option DecisionOutcome)
    (result : Except NodeError NodeOutcome) :
    (executor.recordOf node before startedAt now decision result).errors.isEmpty =
      result.isOk := by
  cases result <;> rfl

theorem logs_finish {run : NodeRun}
    (handedOut : (executor.enter run.node run.before).1 = .handedOut run.work) (cancelled : Bool)
    (now : Timestamp) :
    executor.Logs run.node run.before (executor.finish cancelled now run).2 := by
  obtain ⟨sameId, -⟩ := executor.enter_handedOut handedOut
  have effects : (executor.finish cancelled now run).2 =
      (executor.settle cancelled run.startedAt now run.work).2 ++
        [.recorded (executor.recordOf run.node run.before run.startedAt now none
          (executor.finish cancelled now run).1)] := rfl
  have ends : (executor.finish cancelled now run).1.isOk =
      (executor.settle cancelled run.startedAt now run.work).1.isOk := isOk_map _ _
  rw [effects]
  refine ⟨executor.recordOf run.node run.before run.startedAt now none
    (executor.finish cancelled now run).1, ?_, rfl, rfl, rfl, ?_⟩
  · have silent : (executor.settle cancelled run.startedAt now run.work).2.filterMap
        Effect.record? = [] := by
      apply List.filterMap_eq_nil_iff.mpr
      intro effect inside
      exact ((executor.settle_spec cancelled run.startedAt now run.work).1 effect inside).1
    rw [List.filterMap_append, silent]
    rfl
  · rw [List.filterMap_append, activations_settle, leaf?_of_handedOut handedOut, Option.map_map]
    unfold TraceRecord.activation
    rw [errors_recordOf, ends, sameId]
    exact List.append_nil _

theorem logs_begin (executor : Executor) (cancelled : Bool) (now : Timestamp) (node : DecisionNode)
    (before : Context) :
    (∀ effect ∈ (executor.begin cancelled now node before).2, effect.Quiet) ∨
      executor.Logs node before (executor.begin cancelled now node before).2 := by
  obtain ⟨quiet, nothing, ⟨outcome, decision, settled, began⟩ | ⟨work, handedOut, ended | waits⟩⟩ :=
    executor.begin_cases cancelled now node before
  · have noLeaf : executor.registry.leafOf node = none := by
      cases runs : executor.registry.leafOf node with
      | none => rfl
      | some run =>
        rw [Executor.enter_of_leafOf runs] at settled
        cases settled
    have logs : executor.Logs node before
        [.recorded (executor.recordOf node before now now decision (.ok outcome))] :=
      ⟨_, rfl, rfl, rfl, rfl, by rw [noLeaf]; rfl⟩
    rw [began]
    exact Or.inr (logs.after nothing)
  · rw [ended]
    have logs := @logs_finish executor ⟨node, before, now, work⟩ handedOut cancelled now
    exact Or.inr (logs.after nothing)
  · rw [waits]
    exact Or.inl nothing

end Node

/-- A step of a walk logs nothing, or what one node logs that is done. -/
theorem Stage.logs_advance {executor : Executor} {stage : Stage} {asked : Option CapabilityRequest}
    (entered : stage.Entered executor asked) (cancelled : Bool) (now : Timestamp) :
    (∀ effect ∈ (stage.advance executor cancelled now).2, effect.Quiet) ∨
      ∃ node before, executor.Logs node before (stage.advance executor cancelled now).2 := by
  cases stage with
  | ended result => exact Or.inl (List.forall_mem_nil _)
  | inside walk id run => exact Or.inr ⟨run.node, run.before, logs_finish entered.1 cancelled now⟩
  | between walk =>
    rcases Stage.advance_between executor (now, cancelled) walk with
      ⟨id, rest, node, -, -, -, steps⟩ | ⟨-, result, effects, finished, quiet, -⟩
    · have effects : ((Stage.between walk).advance executor cancelled now).2 =
          (executor.begin false now node walk.context).2 := by
        rw [steps]
        generalize executor.begin false now node walk.context = began
        obtain ⟨result | run, effects⟩ := began <;> rfl
      rw [effects]
      rcases logs_begin executor false now node walk.context with nothing | logs
      · exact Or.inl nothing
      · exact Or.inr ⟨node, walk.context, logs⟩
    · rw [finished]
      exact Or.inl quiet

/-! What the recorder is called for. -/

namespace Recorder

/-- The activations of a leaf that are of an id are those that go with the records of the id that
tell of the leaf, and come in their order. -/
def Paired (registry : Registry) (id leafId : String) (calls : List Call) : Prop :=
  ((activationsFor leafId calls).filter fun activation => activation.correlationId = id) =
    ((recordsFor id calls).filter (registry.tellsOf leafId)).map TraceRecord.activation

theorem Paired.append {registry : Registry} {id leafId : String} {first later : List Call}
    (paired : Paired registry id leafId first) (rest : Paired registry id leafId later) :
    Paired registry id leafId (first ++ later) := by
  unfold Paired activationsFor recordsFor at *
  simp only [List.filterMap_append, List.filter_append, List.map_append, paired, rest]

end Recorder

section Calls

open Recorder

theorem activationsFor_calls (now : Timestamp) (effects : List Effect) (leafId : String) :
    activationsFor leafId (Effect.calls now effects) =
      (effects.filterMap Effect.activation?).filterMap fun made =>
        if made.1 = leafId then some made.2 else none := by
  unfold activationsFor Effect.calls
  rw [List.filterMap_filterMap, List.filterMap_filterMap]
  congr 1
  funext effect
  cases effect <;> rfl

theorem recordsFor_calls (now : Timestamp) (effects : List Effect) (id : String) :
    recordsFor id (Effect.calls now effects) =
      (effects.filterMap Effect.record?).filter fun record => record.correlationId = id := by
  unfold recordsFor Effect.calls
  rw [List.filterMap_filterMap, List.filter_filterMap]
  congr 1
  funext effect
  cases effect <;> simp [Effect.call?, Effect.record?, Call.recordFor?, Option.filter]

variable {executor : Executor} {effects : List Effect}

theorem paired_of_quiet (registry : Registry) (quiet : ∀ effect ∈ effects, effect.Quiet)
    (now : Timestamp) (id leafId : String) :
    Paired registry id leafId (Effect.calls now effects) := by
  rw [Paired, activationsFor_calls, recordsFor_calls, filterMap_activation?_of_quiet quiet,
    Effect.filterMap_record?_of_quiet quiet]
  rfl

theorem Executor.Logs.paired (accepted : executor.registry.Accepted) {node : DecisionNode}
    {before : Context} (logs : executor.Logs node before effects) (now : Timestamp)
    (id leafId : String) :
    Paired executor.registry id leafId (Effect.calls now effects) := by
  obtain ⟨record, one, -, kind, text, activations⟩ := logs
  have tells := tellsOf_iff accepted kind text leafId
  rw [Paired, activationsFor_calls, recordsFor_calls, one, activations]
  cases runs : executor.registry.leafOf node with
  | none =>
    rw [runs] at tells
    have silent : executor.registry.tellsOf leafId record = false := by
      apply Bool.eq_false_iff.mpr
      intro told
      obtain ⟨action, leaf, impossible, -⟩ := tells.mp told
      cases impossible
    by_cases own : record.correlationId = id <;> simp [own, silent]
  | some run =>
    have told : executor.registry.tellsOf leafId record = decide (run.2.id = leafId) := by
      rw [runs] at tells
      rw [Bool.eq_iff_iff, tells, decide_eq_true_eq]
      constructor
      · rintro ⟨action, leaf, same, rfl⟩
        rw [Option.some.inj same]
      · intro same
        exact ⟨run.1, run.2, rfl, same⟩
    have sameId : record.activation.correlationId = record.correlationId := rfl
    by_cases own : record.correlationId = id <;> by_cases here : run.2.id = leafId <;>
      simp [own, here, told, sameId]

end Calls

namespace Engine

variable {engine : Engine} {state : State}

theorem State.Steady.paired_calls {ledger : Ledger}
    (steady : state.Steady engine ledger)
    (accepted : engine.controller.executor.registry.Accepted) (now : Timestamp) (event : Event)
    (id leafId : String) :
    Recorder.Paired engine.controller.executor.registry id leafId
      (engine.calls now state event) := by
  cases event with
  | start request => rfl
  | cancel cancelled => rfl
  | shutdown => rfl
  | purge cutoff => rfl
  | drop seq =>
    unfold calls
    dsimp only
    split <;> rfl
  | step seq =>
    rcases engine.stepSeq_cases now state seq with
      ⟨gone, -⟩ | ⟨live, phase, effects, found, went, -⟩ | ⟨live, reply, effects, found, ended, -⟩
    · have nothing : engine.calls now state (.step seq) = [] := by
        simp only [calls, gone]
      rw [nothing]
      rfl
    · rw [calls_went found went]
      rcases went_cases went with ⟨-, -, -, rfl⟩ | ⟨stage, walking, -, -, rfl⟩
      · apply paired_of_quiet
        intro effect inside
        exact Effect.quiet_of_mem_warnings inside
      · have entered := steady.entered live (state.mem_of_find? found).1 stage walking
        rcases stage.logs_advance entered live.cancelled now with quiet | ⟨node, before, logs⟩
        · exact paired_of_quiet _ quiet now id leafId
        · exact logs.paired accepted now id leafId
    · rw [calls_ended found ended]
      rfl

theorem State.Steady.paired_callsAlong {ledger : Ledger} (steady : state.Steady engine ledger)
    (accepted : engine.controller.executor.registry.Accepted)
    (events : List (Timestamp × Event)) (id leafId : String) :
    Recorder.Paired engine.controller.executor.registry id leafId
      (engine.callsAlong state events) := by
  induction events generalizing state ledger with
  | nil => rfl
  | cons event later ih =>
    rw [callsAlong_cons]
    exact (steady.paired_calls accepted event.1 event.2 id leafId).append
      (ih (steady.handle event.1 event.2))

theorem State.Steady.record_of_activation {ledger : Ledger} (steady : state.Steady engine ledger)
    (accepted : engine.controller.executor.registry.Accepted) {now : Timestamp} {event : Event}
    {leafId : String} {activation : NodeActivation}
    (logged : .recordActivation leafId activation ∈ engine.calls now state event) :
    ∃ time record, .record time record ∈ engine.calls now state event ∧
      engine.controller.executor.registry.tellsOf leafId record = true ∧
      record.activation = activation := by
  have paired := steady.paired_calls accepted now event activation.correlationId leafId
  have inside : activation ∈ (Recorder.activationsFor leafId (engine.calls now state event)).filter
      fun made => made.correlationId = activation.correlationId := by
    refine List.mem_filter.mpr ⟨List.mem_filterMap.mpr ⟨_, logged, ?_⟩, by simp⟩
    exact if_pos rfl
  rw [paired] at inside
  obtain ⟨record, selected, same⟩ := List.mem_map.mp inside
  obtain ⟨made, told⟩ := List.mem_filter.mp selected
  obtain ⟨call, called, makes⟩ := List.mem_filterMap.mp made
  cases call with
  | record time other =>
    simp only [Recorder.Call.recordFor?] at makes
    split at makes
    · obtain rfl := Option.some.inj makes
      exact ⟨time, other, called, told, same⟩
    · cases makes
  | beginRequest | recordActivation | recordDecision | finishRequest | purgeBefore => cases makes

theorem State.Steady.no_activations {ledger : Ledger} (steady : state.Steady engine ledger)
    (accepted : engine.controller.executor.registry.Accepted)
    (events : List (Timestamp × Event)) {leafId : String}
    (unknown : engine.controller.executor.registry.dataFlow? leafId = none) :
    Recorder.activationsFor leafId (engine.callsAlong state events) = [] := by
  apply List.eq_nil_iff_forall_not_mem.mpr
  intro activation inside
  have paired := steady.paired_callsAlong accepted events activation.correlationId leafId
  have selected : activation ∈
      (Recorder.activationsFor leafId (engine.callsAlong state events)).filter
        fun made => made.correlationId = activation.correlationId :=
    List.mem_filter.mpr ⟨inside, by simp⟩
  rw [paired] at selected
  obtain ⟨record, told, -⟩ := List.mem_map.mp selected
  have tells := (List.mem_filter.mp told).2
  rw [Registry.tellsOf, unknown] at tells
  cases tells

/-- The log of activations agrees with the traces, whatever requests have been started, cancelled,
given up or purged. Of a trace that is whole, the records of action and fallback nodes that aim at a
registered leaf and the activations of the leaf that are of the id are the same nodes in the same
order, as long as the leaf has not been activated more often than is kept; and each activation is a
success exactly if its record has no errors. An activation is only ever logged together with such a
record, and none under an id that no data-flow node has. -/
theorem activations_agree_with_traces (accepted : engine.controller.executor.registry.Accepted)
    (events : List (Timestamp × Event)) (id leafId : String)
    (whole : ((engine.run engine.initial events).recorder.traces id).length =
      (Recorder.recordsFor id (engine.callsAlong engine.initial events)).length)
    (few : (Recorder.activationsFor leafId (engine.callsAlong engine.initial events)).length ≤
      Recorder.maxActivations) :
    let recorder := (engine.run engine.initial events).recorder
    let registry := engine.controller.executor.registry
    ((recorder.activationsOf leafId).filter fun activation => activation.correlationId = id) =
      ((recorder.traces id).filter (registry.tellsOf leafId)).map TraceRecord.activation ∧
    (∀ earlier event later, events = earlier ++ event :: later → ∀ nodeId activation,
      .recordActivation nodeId activation ∈
        engine.calls event.1 (engine.run engine.initial earlier) event.2 →
      ∃ now record,
        .record now record ∈ engine.calls event.1 (engine.run engine.initial earlier) event.2 ∧
        registry.tellsOf nodeId record = true ∧ record.activation = activation) ∧
    (registry.dataFlow? leafId = none → recorder.activationsOf leafId = []) := by
  intro recorder registry
  have steady := initial_steady engine
  have kept : recorder.activationsOf leafId =
      Recorder.activationsFor leafId (engine.callsAlong engine.initial events) := by
    have nothing : engine.initial.recorder.activationsOf leafId =
        Recorder.latestActivations [] := rfl
    have held := Recorder.activationsOf_run nothing (engine.callsAlong engine.initial events)
    rw [List.nil_append, Recorder.latestActivations_of_few few] at held
    rw [← held]
    exact congrArg (Recorder.activationsOf · leafId) (engine.run_recorder engine.initial events)
  refine ⟨?_, ?_, ?_⟩
  · have isTrace : Recorder.IsTraceOf
        (Recorder.recordsFor id (engine.callsAlong engine.initial events))
        (recorder.traces id) := by
      have ran : recorder = (Recorder.ofSettings engine.settings).run
          (engine.callsAlong engine.initial events) := engine.run_recorder engine.initial events
      have counted : (recorder.traces id).length =
          (Recorder.recordsFor id (engine.callsAlong engine.initial events)).length := whole
      rw [ran] at counted ⊢
      exact Recorder.isTraceOf_of_whole _ _ _ counted
    have same : ((recorder.traces id).filter (registry.tellsOf leafId)).map
          TraceRecord.activation =
        ((Recorder.recordsFor id (engine.callsAlong engine.initial events)).filter
          (registry.tellsOf leafId)).map TraceRecord.activation :=
      isTrace.map_filter_eq (fun _ _ => rfl) (fun _ _ => rfl)
    rw [kept, same]
    exact steady.paired_callsAlong accepted events id leafId
  · rintro earlier event later rfl nodeId activation logged
    exact (steady.run earlier).record_of_activation accepted logged
  · intro unknown
    rw [kept]
    exact steady.no_activations accepted events unknown

/-! Two requests side by side, one of which fails. -/

namespace Sample

def retrying : GraphDefinition where
  root := "try"
  dataFlowNodes := [{ id := "probe", kind := .processor }]
  decisionNodes := [
    { id := "try", behavior := .action ⟨.activate, "probe", []⟩, children := ["rescue"] },
    { id := "rescue", behavior := .fallback ⟨.fallback, "probe", []⟩ }]

/-- An engine whose leaf fails for the requests of one id. -/
def retryingEngine : Engine :=
  Engine.new {} (Executor.Sample.executor retrying).registry Dict.empty
    (Dict.ofList [("probe", fun _ context =>
      { outcome := if context.correlationId = "bad" then .error (.failed "no probe") else
        .ok Dict.empty })])
    (fun _ => { outcome := .error (.unavailable "nobody to ask") }) (fun _ => .ok "")

def sideBySide : List (Timestamp × Event) :=
  [(⟨0, false⟩, .start ⟨"good", .null, Dict.empty⟩),
    (⟨0, false⟩, .start ⟨"bad", .null, Dict.empty⟩)] ++
    (List.replicate 5 [(⟨1, false⟩, .step 0), (⟨2, false⟩, .step 1)]).flatten

end Sample

theorem requests_side_by_side_agree :
    let recorder := (Sample.retryingEngine.run Sample.retryingEngine.initial
      Sample.sideBySide).recorder
    let registry := Sample.retryingEngine.controller.executor.registry
    (recorder.activationsOf "probe").map (·.success) = [true, false, true] ∧
      ∀ id ∈ ["good", "bad"],
        ((recorder.activationsOf "probe").filter fun activation => activation.correlationId = id) =
          ((recorder.traces id).filter (registry.tellsOf "probe")).map TraceRecord.activation := by
  intro recorder registry
  have read : Registry.ofDefinition Sample.retrying =
      .ok Sample.retryingEngine.controller.executor.registry := by rfl
  have accepted := Registry.accepted_of_ofDefinition read
  refine ⟨by rfl, ?_⟩
  intro id told
  have whole : ∀ id ∈ ["good", "bad"],
      ((Sample.retryingEngine.run Sample.retryingEngine.initial
        Sample.sideBySide).recorder.traces id).length =
        (Recorder.recordsFor id (Sample.retryingEngine.callsAlong Sample.retryingEngine.initial
          Sample.sideBySide)).length := by decide +kernel
  have few : (Recorder.activationsFor "probe" (Sample.retryingEngine.callsAlong
      Sample.retryingEngine.initial Sample.sideBySide)).length ≤ Recorder.maxActivations := by
    decide +kernel
  exact (activations_agree_with_traces accepted Sample.sideBySide id "probe" (whole id told) few).1

end Engine

end Switchyard
