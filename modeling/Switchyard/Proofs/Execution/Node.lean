import Switchyard.Execution.Controller
import Switchyard.Proofs.Context.Values
import Switchyard.Proofs.Trace.Pinned
set_option autoImplicit false

/-! What running one node leaves behind: one record when it is done, effects that are all of the
request's own id, and contexts of that same id. -/
namespace Switchyard

theorem Leaves.deliver_correlationId (outputs : Dict Json) (context : Context) :
    (Leaves.deliver outputs context).correlationId = context.correlationId :=
  Context.setAll_correlationId context outputs.entries

theorem Controller.prepare_correlationId (request : Request) :
    (Controller.prepare request).correlationId = request.correlationId :=
  Context.ofRequest_correlationId request.correlationId request.input request.context

theorem withParameters_correlationId (action : NodeAction) (context : Context) :
    (withParameters action context).correlationId = context.correlationId := by
  unfold withParameters
  split <;> rfl

def Work.context : Work → Context
  | .leaf _ context => context
  | .capability _ context => context

namespace Executor

variable (executor : Executor)

theorem proceed_correlationId (node : DecisionNode) (context : Context) :
    (proceed node context).context.correlationId = context.correlationId := by
  unfold proceed
  split <;> rfl

theorem enter_quiet (node : DecisionNode) (context : Context) :
    ∀ effect ∈ (executor.enter node context).2, effect.Quiet := by
  intro effect inside
  unfold enter at inside
  split at inside
  · exact Effect.quiet_of_mem_warnings inside
  · split at inside
    · exact Effect.quiet_of_mem_warnings inside
    · rw [List.mem_singleton.mp inside]
      trivial
  · cases inside
  · split at inside
    · exact Effect.quiet_of_mem_warnings inside
    · rw [List.mem_singleton.mp inside]
      trivial

theorem announce_quiet (work : Work) : ∀ effect ∈ executor.announce work, effect.Quiet := by
  intro effect inside
  cases work with
  | leaf node context => exact Effect.quiet_of_mem_warnings inside
  | capability request context =>
    rw [List.mem_singleton.mp inside]
    trivial

/-- What a node decides in a context: a condition what its predicate comes to there, and any other
node nothing. -/
def decision? (node : DecisionNode) (context : Context) : Option DecisionOutcome :=
  match node.behavior with
  | .condition predicate _ _ =>
    let evaluation := Condition.evaluate executor.predicates predicate context
    some ⟨predicate, evaluation.result, evaluation.reasoning⟩
  | .action _ | .capability _ | .fallback _ => none

/-- A node that is settled at once keeps the id of its context. Exactly the conditions decide, and
what they decide says where to go on. -/
theorem enter_settled {node : DecisionNode} {context : Context} {outcome : NodeOutcome}
    {decision : Option DecisionOutcome}
    (settled : (executor.enter node context).1 = .settled outcome decision) :
    outcome.context.correlationId = context.correlationId ∧
      decision = executor.decision? node context ∧
      match node.behavior with
      | .condition _ whenTrue whenFalse => ∃ made, decision = some made ∧
          outcome.next = (if made.result then whenTrue else whenFalse).toList
      | _ => decision = none := by
  unfold enter at settled
  unfold decision?
  split at settled
  · obtain ⟨rfl, rfl⟩ := Begun.settled.inj settled
    rename_i behavior
    rw [behavior]
    exact ⟨rfl, rfl, _, rfl, rfl⟩
  · rename_i behavior
    split at settled
    · cases settled
    · obtain ⟨rfl, rfl⟩ := Begun.settled.inj settled
      rw [behavior]
      exact ⟨rfl, rfl, rfl⟩
  · cases settled
  · rename_i behavior
    split at settled
    · cases settled
    · obtain ⟨rfl, rfl⟩ := Begun.settled.inj settled
      rw [behavior]
      exact ⟨rfl, rfl, rfl⟩

/-- Work is handed out by actions and fallbacks with a known leaf, to that leaf and with their
parameters, and by capability nodes. -/
theorem handedOut_cases {node : DecisionNode} {context : Context} {work : Work}
    (handedOut : (executor.enter node context).1 = .handedOut work) :
    (∃ action leaf, (node.behavior = .action action ∨ node.behavior = .fallback action) ∧
      executor.registry.dataFlow? action.target = some leaf ∧
      work = .leaf leaf (withParameters action context)) ∨
    ∃ action, node.behavior = .capability action ∧
      work = .capability (capabilityRequest node action context) context := by
  unfold enter at handedOut
  cases behavior : node.behavior with
  | condition predicate whenTrue whenFalse =>
    rw [behavior] at handedOut
    cases handedOut
  | capability action =>
    rw [behavior] at handedOut
    exact Or.inr ⟨action, rfl, (Begun.handedOut.inj handedOut).symm⟩
  | action action | fallback action =>
    rw [behavior] at handedOut
    dsimp only at handedOut
    cases resolved : executor.registry.dataFlow? action.target with
    | none =>
      rw [resolved] at handedOut
      cases handedOut
    | some leaf =>
      rw [resolved] at handedOut
      have same := (Begun.handedOut.inj handedOut).symm
      exact Or.inl ⟨action, leaf, by simp, resolved, same⟩

theorem enter_handedOut {node : DecisionNode} {context : Context} {work : Work}
    (handedOut : (executor.enter node context).1 = .handedOut work) :
    work.context.correlationId = context.correlationId ∧ node.kind ≠ .condition := by
  rw [DecisionNode.kind]
  rcases executor.handedOut_cases handedOut with
    ⟨action, leaf, behavior | behavior, -, rfl⟩ | ⟨action, behavior, rfl⟩
  · rw [behavior]
    exact ⟨withParameters_correlationId action context, DecisionKind.noConfusion⟩
  · rw [behavior]
    exact ⟨withParameters_correlationId action context, DecisionKind.noConfusion⟩
  · rw [behavior]
    exact ⟨rfl, DecisionKind.noConfusion⟩

/-- A node that begins is settled, has its work settled at once, or waits. Only warnings and
questions come before that. -/
theorem begin_cases (cancelled : Bool) (now : Timestamp) (node : DecisionNode)
    (context : Context) :
    ∃ quiet : List Effect, (∀ effect ∈ quiet, effect.Quiet) ∧
      ((∃ outcome decision, (executor.enter node context).1 = .settled outcome decision ∧
          executor.begin cancelled now node context = (.inl (.ok outcome), quiet ++
            [.recorded (executor.recordOf node context now now decision (.ok outcome))])) ∨
        (∃ work, (executor.enter node context).1 = .handedOut work ∧
          (executor.begin cancelled now node context =
              (.inl (executor.finish cancelled now ⟨node, context, now, work⟩).1,
                quiet ++ (executor.finish cancelled now ⟨node, context, now, work⟩).2) ∨
            executor.begin cancelled now node context =
              (.inr ⟨node, context, now, work⟩, quiet)))) := by
  have entering := executor.enter_quiet node context
  unfold «begin»
  generalize executor.enter node context = entered at entering ⊢
  obtain ⟨begun, effects⟩ := entered
  cases begun with
  | settled outcome decision => exact ⟨effects, entering, Or.inl ⟨outcome, decision, rfl, rfl⟩⟩
  | handedOut work =>
    have announcing : ∀ effect ∈ effects ++ executor.announce work, effect.Quiet := by
      intro effect inside
      rcases List.mem_append.mp inside with early | announced
      · exact entering effect early
      · exact executor.announce_quiet work effect announced
    dsimp only
    split
    · rename_i stopped
      subst stopped
      exact ⟨effects, entering, Or.inr ⟨work, rfl, Or.inl rfl⟩⟩
    · rename_i goes
      rw [Bool.not_eq_true] at goes
      subst goes
      split
      · exact ⟨_, announcing, Or.inr ⟨work, rfl, Or.inl rfl⟩⟩
      · exact ⟨_, announcing, Or.inr ⟨work, rfl, Or.inr rfl⟩⟩

/-! Settling work. -/

theorem answer_spec (work : Work) :
    (∀ effect ∈ (executor.answer work).2, effect.record? = none ∧
      effect.IsOf work.context.correlationId) ∧
    ∀ context, (executor.answer work).1 = .ok context →
      context.correlationId = work.context.correlationId := by
  have warned : ∀ (list : List Warning) (effect : Effect), effect ∈ Effect.warnings list →
      effect.record? = none ∧ effect.IsOf work.context.correlationId := by
    intro list effect inside
    obtain ⟨warning, -, rfl⟩ := List.mem_map.mp inside
    exact ⟨rfl, trivial⟩
  cases work with
  | leaf node context =>
    unfold answer
    dsimp only
    split
    · refine ⟨warned _, fun after answered => ?_⟩
      rw [← Except.ok.inj answered]
      exact Leaves.deliver_correlationId _ context
    · exact ⟨fun effect inside => (List.not_mem_nil inside).elim,
        fun after failed => by cases failed⟩
  | capability request context =>
    unfold answer
    dsimp only
    split
    · exact ⟨fun effect inside => (List.not_mem_nil inside).elim,
        fun after failed => by cases failed⟩
    · split
      · refine ⟨fun effect inside => ?_, fun after answered => ?_⟩
        · rcases List.mem_append.mp inside with warning | decided
          · exact warned _ effect warning
          · rw [List.mem_singleton.mp decided]
            exact ⟨rfl, rfl⟩
        · rw [← Except.ok.inj answered]
          rfl
      · exact ⟨fun effect inside => (List.not_mem_nil inside).elim,
          fun after failed => by cases failed⟩

theorem close_spec (work : Work) (startedAt now : Timestamp) (result : Except NodeError Context) :
    (∀ effect ∈ (close work startedAt now result).2, effect.record? = none ∧
      effect.IsOf work.context.correlationId) ∧
    ∀ context, (close work startedAt now result).1 = .ok context →
      ∃ before, result = .ok before ∧ context.correlationId = before.correlationId := by
  cases work with
  | leaf node handed =>
    refine ⟨fun effect inside => ?_, fun context closed => ?_⟩
    · rw [List.mem_singleton.mp inside]
      exact ⟨rfl, rfl⟩
    · cases result with
      | ok before =>
        refine ⟨before, rfl, ?_⟩
        rw [← Except.ok.inj closed]
        rfl
      | error error => cases closed
  | capability request handed =>
    exact ⟨fun effect inside => (List.not_mem_nil inside).elim,
      fun context closed => ⟨context, closed, rfl⟩⟩

theorem settle_spec (cancelled : Bool) (startedAt now : Timestamp) (work : Work) :
    (∀ effect ∈ (executor.settle cancelled startedAt now work).2, effect.record? = none ∧
      effect.IsOf work.context.correlationId) ∧
    ∀ context, (executor.settle cancelled startedAt now work).1 = .ok context →
      context.correlationId = work.context.correlationId := by
  obtain ⟨answering, answered⟩ := executor.answer_spec work
  cases cancelled with
  | true =>
    obtain ⟨closing, closed⟩ := close_spec work startedAt now (.error .cancelled)
    refine ⟨closing, fun context settled => ?_⟩
    obtain ⟨before, impossible, -⟩ := closed context settled
    cases impossible
  | false =>
    obtain ⟨closing, closed⟩ := close_spec work startedAt now (executor.answer work).1
    refine ⟨fun effect inside => ?_, fun context settled => ?_⟩
    · rcases List.mem_append.mp inside with early | late
      · exact answering effect early
      · exact closing effect late
    · obtain ⟨before, ok, same⟩ := closed context settled
      exact same.trans (answered before ok)

/-! What is known of a node once it is done, however it got there. -/

/-- Exactly the conditions decide, and what they decide says where to go on. -/
def Decides (behavior : Behavior) (decision : Option DecisionOutcome)
    (result : Except NodeError NodeOutcome) : Prop :=
  match behavior with
  | .condition _ whenTrue whenFalse => ∃ made outcome, decision = some made ∧
      result = .ok outcome ∧ outcome.next = (if made.result then whenTrue else whenFalse).toList
  | .action _ | .capability _ | .fallback _ => decision = none

theorem decision?_eq_none {node : DecisionNode} (notCondition : node.kind ≠ .condition)
    (context : Context) : executor.decision? node context = none := by
  unfold DecisionNode.kind at notCondition
  unfold decision?
  cases behavior : node.behavior with
  | condition predicate whenTrue whenFalse =>
    rw [behavior] at notCondition
    exact absurd rfl notCondition
  | _ => rfl

theorem decides_none {node : DecisionNode} (notCondition : node.kind ≠ .condition)
    (result : Except NodeError NodeOutcome) : Decides node.behavior none result := by
  unfold DecisionNode.kind at notCondition
  cases behavior : node.behavior with
  | condition predicate whenTrue whenFalse =>
    rw [behavior] at notCondition
    exact absurd rfl notCondition
  | _ => rfl

/-- A node that is done has written one record, and everything that it did and left is of the id of
the context that it was given. -/
structure Done (executor : Executor) (node : DecisionNode) (before : Context)
    (result : Except NodeError NodeOutcome) (effects : List Effect) : Prop where
  record : ∃ startedAt now, Decides node.behavior (executor.decision? node before) result ∧
    effects.filterMap Effect.record? =
      [executor.recordOf node before startedAt now (executor.decision? node before) result]
  isOf : ∀ effect ∈ effects, effect.IsOf before.correlationId
  sameId : ∀ outcome, result = .ok outcome →
    outcome.context.correlationId = before.correlationId

/-- A node waits with a context of the id that it was given; no condition waits. -/
structure Waits (run : NodeRun) : Prop where
  sameId : run.work.context.correlationId = run.before.correlationId
  notCondition : run.node.kind ≠ .condition

theorem finish_done (cancelled : Bool) (now : Timestamp) {run : NodeRun} (waits : Waits run) :
    Done executor run.node run.before (executor.finish cancelled now run).1
      (executor.finish cancelled now run).2 := by
  obtain ⟨settling, settled⟩ := executor.settle_spec cancelled run.startedAt now run.work
  rw [waits.sameId] at settling settled
  have nothing : executor.decision? run.node run.before = none :=
    executor.decision?_eq_none waits.notCondition run.before
  refine ⟨⟨run.startedAt, now, nothing ▸ decides_none waits.notCondition _, ?_⟩,
    fun effect inside => ?_, fun outcome finished => ?_⟩
  · have silent : (executor.settle cancelled run.startedAt now run.work).2.filterMap
        Effect.record? = [] :=
      List.filterMap_eq_nil_iff.mpr fun effect inside => (settling effect inside).1
    simp only [finish, List.filterMap_append, silent, List.nil_append, nothing]
    rfl
  · rcases List.mem_append.mp inside with early | last
    · exact (settling effect early).2
    · rw [List.mem_singleton.mp last]
      rfl
  · change (executor.settle cancelled run.startedAt now run.work).1.map (proceed run.node) =
      .ok outcome at finished
    cases found : (executor.settle cancelled run.startedAt now run.work).1 with
    | error error =>
      rw [found] at finished
      cases finished
    | ok context =>
      rw [found] at finished
      rw [← Except.ok.inj finished, proceed_correlationId]
      exact settled context found

/-- Effects that leave nothing behind may come before. -/
theorem Done.after {executor : Executor} {node : DecisionNode} {before : Context}
    {result : Except NodeError NodeOutcome} {quiet effects : List Effect}
    (done : Done executor node before result effects)
    (nothing : ∀ effect ∈ quiet, effect.Quiet) :
    Done executor node before result (quiet ++ effects) := by
  refine ⟨?_, fun effect inside => ?_, done.sameId⟩
  · rw [List.filterMap_append, Effect.filterMap_record?_of_quiet nothing, List.nil_append]
    exact done.record
  · rcases List.mem_append.mp inside with early | late
    · exact (nothing effect early).isOf _
    · exact done.isOf effect late

theorem settled_done (now : Timestamp) {node : DecisionNode} {context : Context}
    {outcome : NodeOutcome} {decision : Option DecisionOutcome}
    (settled : (executor.enter node context).1 = .settled outcome decision) :
    Done executor node context (.ok outcome)
      [.recorded (executor.recordOf node context now now decision (.ok outcome))] := by
  obtain ⟨sameId, rfl, made⟩ := executor.enter_settled settled
  refine ⟨⟨now, now, ?_, rfl⟩, fun effect inside => ?_, fun same equal => ?_⟩
  · unfold Decides
    cases behavior : node.behavior with
    | condition predicate whenTrue whenFalse =>
      rw [behavior] at made
      obtain ⟨chosen, decided, next⟩ := made
      exact ⟨chosen, outcome, decided, rfl, next⟩
    | _ =>
      rw [behavior] at made
      exact made
  · rw [List.mem_singleton.mp inside]
    rfl
  · rw [← Except.ok.inj equal]
    exact sameId

/-- A node that begins is done at once or waits. -/
theorem begin_spec (cancelled : Bool) (now : Timestamp) (node : DecisionNode) (context : Context) :
    match executor.begin cancelled now node context with
    | (.inl result, effects) => Done executor node context result effects
    | (.inr run, effects) => (∀ effect ∈ effects, effect.Quiet) ∧ run.node = node ∧
        run.before = context ∧ Waits run := by
  obtain ⟨quiet, nothing, ⟨outcome, decision, settled, began⟩ | ⟨work, handedOut, began⟩⟩ :=
    executor.begin_cases cancelled now node context
  · rw [began]
    exact (executor.settled_done now settled).after nothing
  · obtain ⟨sameId, notCondition⟩ := executor.enter_handedOut handedOut
    have waits : Waits ⟨node, context, now, work⟩ := ⟨sameId, notCondition⟩
    rcases began with ended | waiting
    · rw [ended]
      exact (executor.finish_done cancelled now waits).after nothing
    · rw [waiting]
      exact ⟨nothing, rfl, rfl, waits⟩

theorem execute_done (cancelled : Bool) (now : Timestamp) (node : DecisionNode)
    (context : Context) :
    Done executor node context (executor.execute cancelled now node context).1
      (executor.execute cancelled now node context).2 := by
  have spec := executor.begin_spec cancelled now node context
  unfold execute
  generalize executor.begin cancelled now node context = began at spec ⊢
  obtain ⟨result | run, effects⟩ := began
  · exact spec
  · obtain ⟨quiet, rfl, rfl, waits⟩ := spec
    exact (executor.finish_done cancelled now waits).after quiet

end Executor

end Switchyard
