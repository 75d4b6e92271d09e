import Switchyard.Execution.Controller
import Switchyard.Proofs.Trace.Pinned
set_option autoImplicit false

/-! What is done does not depend on when it is done: everything that a step reads, decides and
leaves is the same at any time, once the times in it are taken out. -/
namespace Switchyard

/-! Taking out the times. One fixed time stands in for every other. -/

def PerformanceSample.untimed (sample : PerformanceSample) : PerformanceSample :=
  { sample with startTime := default, endTime := default, latencyMs := 0 }

def TraceRecord.untimed (record : TraceRecord) : TraceRecord :=
  { record with timestamp := default, performance := record.performance.untimed }

def NodeActivation.untimed (activation : NodeActivation) : NodeActivation :=
  { activation with timestamp := default, latencyMs := 0 }

def CompleteTraceability.untimed (whole : CompleteTraceability) : CompleteTraceability :=
  { whole with
    traces := whole.traces.map TraceRecord.untimed
    capabilityTraces := whole.capabilityTraces.map TraceRecord.untimed }

def OrchestrationResult.untimed (result : OrchestrationResult) : OrchestrationResult :=
  { result with timestamp := default }

def Reply.untimed (reply : Reply) : Reply := reply.map OrchestrationResult.untimed

def NodeRun.untimed (run : NodeRun) : NodeRun := { run with startedAt := default }

def Stage.untimed : Stage → Stage
  | .inside walk id run => .inside walk id run.untimed
  | stage => stage

namespace Effect

def untimed : Effect → Effect
  | .activated nodeId activation => .activated nodeId activation.untimed
  | .recorded record => .recorded record.untimed
  | effect => effect

theorem filterMap_record?_untimed (effects : List Effect) :
    (effects.map untimed).filterMap record? =
      (effects.filterMap record?).map TraceRecord.untimed := by
  rw [List.filterMap_map, List.map_filterMap]
  congr 1
  funext effect
  cases effect <;> rfl

theorem filterMap_decision?_untimed (effects : List Effect) :
    (effects.map untimed).filterMap decision? = effects.filterMap decision? := by
  rw [List.filterMap_map]
  congr 1
  funext effect
  cases effect <;> rfl

end Effect

/-- Two steps come to the same, apart from the times in what they come to and in their effects. -/
structure Alike {α : Type} (untime : α → α) (first second : α × List Effect) : Prop where
  outcome : untime first.1 = untime second.1
  effects : first.2.map Effect.untimed = second.2.map Effect.untimed

/-- Whatever is made of what two steps come to, after the same effects, is alike again. -/
theorem Alike.map {α β : Type} {untime : α → α} {untimeAfter : β → β}
    {first second : α × List Effect} (alike : Alike untime first second) {change : α → β}
    (early : List Effect)
    (keeps : untime first.1 = untime second.1 →
      untimeAfter (change first.1) = untimeAfter (change second.1)) :
    Alike untimeAfter (change first.1, early ++ first.2) (change second.1, early ++ second.2) := by
  refine ⟨keeps alike.outcome, ?_⟩
  rw [List.map_append, List.map_append, alike.effects]

namespace Executor

variable (executor : Executor)

theorem settle_alike (cancelled : Bool) (startedFirst startedSecond first second : Timestamp)
    (work : Work) :
    Alike id (executor.settle cancelled startedFirst first work)
      (executor.settle cancelled startedSecond second work) := by
  cases cancelled <;> cases work <;>
    exact ⟨rfl, by simp [settle, close, Effect.untimed, NodeActivation.untimed]⟩

theorem finish_alike (cancelled : Bool) (first second : Timestamp) {run other : NodeRun}
    (same : run.untimed = other.untimed) :
    Alike id (executor.finish cancelled first run) (executor.finish cancelled second other) := by
  obtain ⟨node, before, startedFirst, work⟩ := run
  obtain ⟨_, _, startedSecond, _⟩ := other
  cases same
  have settled := executor.settle_alike cancelled startedFirst startedSecond first second work
  have result : (executor.settle cancelled startedFirst first work).1 =
      (executor.settle cancelled startedSecond second work).1 := settled.outcome
  refine ⟨congrArg (Except.map (proceed node)) result, ?_⟩
  simp only [finish, List.map_append, settled.effects, result]
  rfl

/-- What a node that begins comes to, without the times. -/
def untimedBegun :
    Except NodeError NodeOutcome ⊕ NodeRun → Except NodeError NodeOutcome ⊕ NodeRun :=
  Sum.map id NodeRun.untimed

theorem begin_alike (cancelled : Bool) (first second : Timestamp) (node : DecisionNode)
    (context : Context) :
    Alike untimedBegun (executor.begin cancelled first node context)
      (executor.begin cancelled second node context) := by
  unfold «begin»
  cases executor.enter node context with
  | mk begun effects =>
    cases begun with
    | settled outcome decision =>
      refine ⟨rfl, ?_⟩
      simp only [List.map_append]
      rfl
    | handedOut work =>
      -- Work that ends at once starts and ends at the same time, once the one and once the other.
      have finished : ∀ stopped, Alike id
          (executor.finish stopped first ⟨node, context, first, work⟩)
          (executor.finish stopped second ⟨node, context, second, work⟩) :=
        fun stopped => executor.finish_alike stopped first second rfl
      dsimp only
      split
      · exact (finished true).map effects (congrArg Sum.inl)
      · split
        · exact (finished false).map (effects ++ executor.announce work) (congrArg Sum.inl)
        · exact ⟨rfl, rfl⟩

end Executor

/-- Where a walk is once a node has begun: past it, or inside it. -/
def Walk.after (walk : Walk) (id : String) :
    (Except NodeError NodeOutcome ⊕ NodeRun) × List Effect → Stage × List Effect
  | (.inl result, effects) => (walk.resume id result, effects)
  | (.inr run, effects) => (.inside walk id run, effects)

theorem Walk.after_alike (walk : Walk) (id : String)
    {first second : (Except NodeError NodeOutcome ⊕ NodeRun) × List Effect}
    (begun : Alike Executor.untimedBegun first second) :
    Alike Stage.untimed (walk.after id first) (walk.after id second) := by
  obtain ⟨first, left⟩ := first
  obtain ⟨second, right⟩ := second
  have outcome : Executor.untimedBegun first = Executor.untimedBegun second := begun.outcome
  have effects : left.map Effect.untimed = right.map Effect.untimed := begun.effects
  cases first with
  | inl result =>
    cases second with
    | inl other =>
      obtain rfl : result = other := Sum.inl.inj outcome
      exact ⟨rfl, effects⟩
    | inr other => cases outcome
  | inr run =>
    cases second with
    | inl other => cases outcome
    | inr other =>
      have same : run.untimed = other.untimed := Sum.inr.inj outcome
      exact ⟨congrArg (Stage.inside walk id) same, effects⟩

theorem visitNext_alike (executor : Executor) (cancelled : Bool) (first second : Timestamp)
    (walk : Walk) :
    Alike Stage.untimed (walk.visitNext executor cancelled first)
      (walk.visitNext executor cancelled second) := by
  unfold Walk.visitNext
  split
  · exact ⟨rfl, rfl⟩
  · split
    · exact ⟨rfl, rfl⟩
    · split
      · exact ⟨rfl, rfl⟩
      · split
        · exact ⟨rfl, rfl⟩
        · exact Walk.after_alike _ _ (executor.begin_alike false first second _ walk.context)

theorem stage_advance_alike (executor : Executor) (cancelled : Bool) (first second : Timestamp)
    {stage other : Stage} (same : stage.untimed = other.untimed) :
    Alike Stage.untimed (stage.advance executor cancelled first)
      (other.advance executor cancelled second) := by
  cases stage with
  | between walk =>
    cases other with
    | between _ =>
      cases same
      exact visitNext_alike executor cancelled first second walk
    | inside => cases same
    | ended => cases same
  | inside walk id run =>
    cases other with
    | inside _ _ otherRun =>
      obtain ⟨rfl, rfl, sameRun⟩ := Stage.inside.inj same
      have finished := executor.finish_alike cancelled first second sameRun
      exact finished.map [] fun sameResult =>
        congrArg (fun result => (walk.resume id result).untimed) sameResult
    | between => cases same
    | ended => cases same
  | ended result =>
    cases other with
    | ended _ =>
      cases same
      exact ⟨rfl, rfl⟩
    | between => cases same
    | inside => cases same

theorem Alike.append {α β : Type} {first second : α × List Effect} {untime : α → α}
    (earlier : Alike untime first second) {left right : β × List Effect}
    (later : Alike id left right) :
    Alike id (left.1, first.2 ++ left.2) (right.1, second.2 ++ right.2) := by
  refine ⟨later.outcome, ?_⟩
  rw [List.map_append, List.map_append, earlier.effects, later.effects]

/-- A walk comes to the same result and does the same whenever its steps are taken. -/
theorem stage_finish_alike (executor : Executor) (cancelled : Bool) (first second : Timestamp)
    {stage other : Stage} (same : stage.untimed = other.untimed) :
    Alike id (stage.finish executor cancelled first) (other.finish executor cancelled second) := by
  induction stage using Stage.finish.induct executor cancelled first generalizing other with
  | case1 result =>
    cases other with
    | ended _ =>
      cases same
      rw [Stage.finish, Stage.finish]
      exact ⟨rfl, rfl⟩
    | between => cases same
    | inside => cases same
  | case2 walk step =>
    rename_i ih
    cases other with
    | between _ =>
      have stepped := stage_advance_alike executor cancelled first second same
      rw [Stage.finish, Stage.finish]
      exact stepped.append (ih stepped.outcome)
    | inside => cases same
    | ended => cases same
  | case3 walk id run step =>
    rename_i ih
    cases other with
    | inside _ _ _ =>
      have stepped := stage_advance_alike executor cancelled first second same
      rw [Stage.finish, Stage.finish]
      exact stepped.append (ih stepped.outcome)
    | between => cases same
    | ended => cases same

namespace Controller

variable (controller : Controller) (first second : Timestamp) (request : Request)

theorem answerByLegacy_alike :
    Alike Reply.untimed (controller.answerByLegacy first request)
      (controller.answerByLegacy second request) := by
  unfold answerByLegacy askLegacy
  cases controller.legacy request.legacyCall with
  | ok response => exact ⟨rfl, rfl⟩
  | error error => cases controller.strategy <;> exact ⟨rfl, rfl⟩

theorem recover_alike (error : WalkError) :
    Alike Reply.untimed (controller.recover first request error)
      (controller.recover second request error) := by
  unfold recover askLegacy
  cases controller.strategy <;> cases error <;> cases controller.legacy request.legacyCall <;>
    exact ⟨rfl, rfl⟩

theorem conclude_alike (result : Except WalkError Context) :
    Alike Reply.untimed (controller.conclude first request result)
      (controller.conclude second request result) := by
  cases result with
  | ok context => exact ⟨rfl, rfl⟩
  | error error => exact controller.recover_alike first second request error

end Controller

end Switchyard
