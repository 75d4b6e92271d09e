import Mathlib.Data.List.Basic
import Switchyard.Proofs.Execution.Footprints
set_option autoImplicit false

/-! What the capability orchestrator is asked for behind a record, and what it decides. Main
statement: `Stage.consults_advance`, a step of a walk leaves a decision exactly if it leaves the
record of a capability node without an error, and then it is the answer to the question that was the
last by then. -/
namespace Switchyard

def TraceRecord.answered (record : TraceRecord) : Bool :=
  decide (record.nodeKind = .capability) && record.errors.isEmpty

def Work.question? : Work → Option CapabilityRequest
  | .leaf .. => none
  | .capability request _ => some request

def Begun.question? : Begun → Option CapabilityRequest
  | .settled .. => none
  | .handedOut work => work.question?

/-- The last question that a request has asked the capability orchestrator, after effects of its own
that follow an earlier question. -/
def lastQuestion (asked : Option CapabilityRequest) (effects : List Effect) :
    Option CapabilityRequest :=
  (effects.filterMap Effect.request?).getLast?.or asked

theorem lastQuestion_eq {asked question : Option CapabilityRequest} {effects : List Effect}
    (asks : effects.filterMap Effect.request? = question.toList) :
    lastQuestion asked effects = question.or asked := by
  rw [lastQuestion, asks]
  cases question <;> rfl

/-- A record with the last question that its request had asked by then. -/
structure Filing where
  record : TraceRecord
  question : Option CapabilityRequest

/-- The decision behind a record: what the capability orchestrator answers, if the record is that of
a capability node without an error. -/
def Filing.decision? (executor : Executor) (filing : Filing) : Option CapabilityDecision :=
  if filing.record.answered then
    filing.question.bind fun request => (executor.capability request).outcome.toOption
  else none

/-- The records and the decisions that some effects leave match: each record of a capability node
without an error comes with the answer to the question, and no other record with any. -/
structure Squares (executor : Executor) (question : Option CapabilityRequest)
    (effects : List Effect) : Prop where
  decisions : (effects.filterMap Effect.decision?).map (·.2) =
    (effects.filterMap Effect.record?).filterMap fun record =>
      Filing.decision? executor ⟨record, question⟩
  answered : ∀ record ∈ effects.filterMap Effect.record?, record.answered = true →
    (Filing.decision? executor ⟨record, question⟩).isSome = true

section Squares

variable {executor : Executor} {question : Option CapabilityRequest} {quiet effects : List Effect}

theorem squares_of_quiet (nothing : ∀ effect ∈ quiet, effect.Quiet) :
    Squares executor question quiet := by
  constructor
  · rw [Effect.filterMap_decision?_of_quiet nothing, Effect.filterMap_record?_of_quiet nothing]
    rfl
  · rw [Effect.filterMap_record?_of_quiet nothing]
    exact List.forall_mem_nil _

theorem Squares.after (squares : Squares executor question effects)
    (nothing : ∀ effect ∈ quiet, effect.Quiet) : Squares executor question (quiet ++ effects) := by
  have decisions : (quiet ++ effects).filterMap Effect.decision? =
      effects.filterMap Effect.decision? := by
    rw [List.filterMap_append, Effect.filterMap_decision?_of_quiet nothing, List.nil_append]
  have records : (quiet ++ effects).filterMap Effect.record? =
      effects.filterMap Effect.record? := by
    rw [List.filterMap_append, Effect.filterMap_record?_of_quiet nothing, List.nil_append]
  constructor
  · rw [decisions, records]
    exact squares.decisions
  · rw [records]
    exact squares.answered

theorem squares_of_record {record : TraceRecord} (choice : Option CapabilityDecision)
    (recorded : effects.filterMap Effect.record? = [record])
    (chosen : (effects.filterMap Effect.decision?).map (·.2) = choice.toList)
    (behind : Filing.decision? executor ⟨record, question⟩ = choice)
    (answered : record.answered = true → choice.isSome = true) :
    Squares executor question effects := by
  constructor
  · rw [recorded, chosen, List.filterMap_cons, behind]
    cases choice <;> rfl
  · rw [recorded]
    intro other inside isAnswered
    rw [List.mem_singleton.mp inside] at isAnswered ⊢
    rw [behind]
    exact answered isAnswered

theorem Squares.of_question (squares : Squares executor question effects)
    {asked : Option CapabilityRequest} (same : ∀ request ∈ question, asked = some request) :
    Squares executor asked effects := by
  have behind : ∀ record ∈ effects.filterMap Effect.record?,
      Filing.decision? executor ⟨record, asked⟩ = Filing.decision? executor ⟨record, question⟩ := by
    intro record inside
    unfold Filing.decision?
    by_cases isAnswered : record.answered = true
    · have decided := squares.answered record inside isAnswered
      rw [Filing.decision?, if_pos isAnswered] at decided
      cases asks : question with
      | none =>
        rw [asks] at decided
        cases decided
      | some request => rw [same request asks]
    · rw [if_neg isAnswered, if_neg isAnswered]
  constructor
  · rw [squares.decisions]
    exact (List.filterMap_congr behind).symm
  · intro record inside isAnswered
    rw [behind record inside]
    exact squares.answered record inside isAnswered

end Squares

namespace Executor

variable (executor : Executor)

theorem answered_recordOf (node : DecisionNode) (before : Context) (startedAt now : Timestamp)
    (decision : Option DecisionOutcome) (result : Except NodeError NodeOutcome) :
    (executor.recordOf node before startedAt now decision result).answered =
      (decide (node.kind = .capability) && result.isOk) := by
  cases result <;> rfl

theorem enter_question (node : DecisionNode) (context : Context) :
    (executor.enter node context).1.question?.isSome = decide (node.kind = .capability) := by
  unfold enter DecisionNode.kind
  cases node.behavior with
  | condition predicate whenTrue whenFalse => rfl
  | action action =>
    dsimp only
    cases executor.registry.dataFlow? action.target <;> rfl
  | capability action => rfl
  | fallback action =>
    dsimp only
    cases executor.registry.dataFlow? action.target <;> rfl

theorem settle_question (stopped : Bool) (startedAt now : Timestamp) (work : Work) :
    (work.question?.isSome && (executor.settle stopped startedAt now work).1.isOk) =
      (if stopped then none else executor.choice? work).isSome := by
  cases work with
  | leaf node context => cases stopped <;> rfl
  | capability request context =>
    cases stopped with
    | true => rfl
    | false =>
      simp only [Work.question?, settle, close, answer, choice?, Bool.false_eq_true, if_false]
      split
      · rfl
      · cases (executor.capability request).outcome <;> rfl

theorem answer_of_choice {stopped : Bool} {work : Work} {decision : CapabilityDecision}
    (chose : (if stopped then none else executor.choice? work) = some decision) :
    (work.question?.bind fun request => (executor.capability request).outcome.toOption) =
      some decision := by
  cases stopped with
  | true => cases chose
  | false =>
    cases work with
    | leaf node context => cases chose
    | capability request context =>
      simp only [choice?, Bool.false_eq_true, if_false] at chose
      split at chose
      · cases chose
      · exact chose

theorem answered_finish {run : NodeRun}
    (entered : (executor.enter run.node run.before).1 = .handedOut run.work) (stopped : Bool)
    (startedAt endedAt now : Timestamp) (decision : Option DecisionOutcome) :
    (executor.recordOf run.node run.before startedAt endedAt decision
      (executor.finish stopped now run).1).answered =
        (if stopped then none else executor.choice? run.work).isSome := by
  have asks := executor.enter_question run.node run.before
  rw [entered] at asks
  have ended : (executor.finish stopped now run).1.isOk =
      (executor.settle stopped run.startedAt now run.work).1.isOk := by
    change ((executor.settle stopped run.startedAt now run.work).1.map _).isOk = _
    cases (executor.settle stopped run.startedAt now run.work).1 <;> rfl
  rw [answered_recordOf, ← asks, ended]
  exact executor.settle_question stopped run.startedAt now run.work

theorem squares_finish {run : NodeRun}
    (entered : (executor.enter run.node run.before).1 = .handedOut run.work) (stopped : Bool)
    (now : Timestamp) :
    Squares executor run.work.question? (executor.finish stopped now run).2 := by
  obtain ⟨sameId, notCondition⟩ := executor.enter_handedOut entered
  have done := executor.finish_done stopped now ⟨sameId, notCondition⟩
  obtain ⟨startedAt, endedAt, -, recorded⟩ := done.record
  have chosen : ((executor.finish stopped now run).2.filterMap Effect.decision?).map (·.2) =
      (if stopped then none else executor.choice? run.work).toList := by
    rw [← filterMap_choice?_footprints, executor.footprints_finish entered, footprints, entered]
    dsimp only
    rw [List.filterMap_append]
    cases (if stopped = true then none else executor.choice? run.work) <;> rfl
  have answered := executor.answered_finish entered stopped startedAt endedAt now
    (executor.decision? run.node run.before)
  refine squares_of_record _ recorded chosen ?_ fun isAnswered => answered.symm.trans isAnswered
  rw [Filing.decision?, answered]
  cases choice : (if stopped then none else executor.choice? run.work) with
  | none => rfl
  | some chosenDecision => exact executor.answer_of_choice choice

theorem request?_of_warnings (list : List Warning) :
    (Effect.warnings list).filterMap Effect.request? = [] := by
  rw [Effect.warnings, List.filterMap_map]
  exact List.filterMap_eq_nil_iff.mpr fun _ _ => rfl

theorem request?_enter (node : DecisionNode) (context : Context) :
    (executor.enter node context).2.filterMap Effect.request? = [] := by
  unfold enter
  cases node.behavior with
  | condition predicate whenTrue whenFalse => exact request?_of_warnings _
  | action action =>
    dsimp only
    cases executor.registry.dataFlow? action.target with
    | none => rfl
    | some leaf => exact request?_of_warnings _
  | capability action => rfl
  | fallback action =>
    dsimp only
    cases executor.registry.dataFlow? action.target with
    | none => rfl
    | some leaf => exact request?_of_warnings _

theorem request?_finish (stopped : Bool) (now : Timestamp) (run : NodeRun) :
    (executor.finish stopped now run).2.filterMap Effect.request? = [] := by
  have answering : ∀ work, (executor.answer work).2.filterMap Effect.request? = [] := by
    intro work
    cases work with
    | leaf node context =>
      unfold answer
      dsimp only
      split
      · exact request?_of_warnings _
      · rfl
    | capability request context =>
      unfold answer
      dsimp only
      split
      · rfl
      · split
        · rw [List.filterMap_append, request?_of_warnings]
          rfl
        · rfl
  have settling : (executor.settle stopped run.startedAt now run.work).2.filterMap
      Effect.request? = [] := by
    have closing : ∀ result, (close run.work run.startedAt now result).2.filterMap
        Effect.request? = [] := by
      intro result
      cases run.work <;> rfl
    cases stopped with
    | true => simp [settle, closing]
    | false => simp [settle, closing, answering]
  unfold finish
  dsimp only
  rw [List.filterMap_append, settling]
  rfl

theorem request?_begin (now : Timestamp) (node : DecisionNode) (context : Context) :
    (executor.begin false now node context).2.filterMap Effect.request? =
      (executor.enter node context).1.question?.toList := by
  have entering := executor.request?_enter node context
  have announcing : ∀ work, (executor.announce work).filterMap Effect.request? =
      work.question?.toList := by
    intro work
    cases work with
    | leaf node context => exact request?_of_warnings _
    | capability request context => rfl
  unfold «begin»
  generalize executor.enter node context = entered at entering ⊢
  obtain ⟨begun, effects⟩ := entered
  have nothing : effects.filterMap Effect.request? = [] := entering
  cases begun with
  | settled outcome decision =>
    dsimp only
    rw [List.filterMap_append, nothing]
    rfl
  | handedOut work =>
    dsimp only
    rw [if_neg Bool.false_ne_true]
    split
    · dsimp only
      rw [List.filterMap_append, List.filterMap_append, nothing, announcing, request?_finish,
        List.append_nil]
      rfl
    · dsimp only
      rw [List.filterMap_append, nothing, announcing]
      rfl

theorem squares_begin (now : Timestamp) (node : DecisionNode) (context : Context)
    (asked : Option CapabilityRequest) :
    Squares executor (lastQuestion asked (executor.begin false now node context).2)
      (executor.begin false now node context).2 := by
  have last := @lastQuestion_eq asked _ _ (executor.request?_begin now node context)
  have same : ∀ request ∈ (executor.enter node context).1.question?,
      lastQuestion asked (executor.begin false now node context).2 = some request := by
    intro request asks
    rw [last, asks]
    rfl
  refine Squares.of_question ?_ same
  obtain ⟨quiet, nothing, ⟨outcome, decision, settled, began⟩ | ⟨work, handedOut, ended | waits⟩⟩ :=
    executor.begin_cases false now node context
  · rw [began]
    have asks := executor.enter_question node context
    have unanswered := executor.answered_recordOf node context now now decision (.ok outcome)
    rw [settled] at asks
    rw [← asks] at unanswered
    refine Squares.after (squares_of_record none rfl rfl ?_ ?_) nothing
    · rw [Filing.decision?, unanswered]
      rfl
    · rw [unanswered]
      exact fun impossible => absurd impossible Bool.false_ne_true
  · have finished := @squares_finish executor ⟨node, context, now, work⟩ handedOut false now
    rw [ended, handedOut]
    exact finished.after nothing
  · rw [waits]
    exact squares_of_quiet nothing

end Executor

namespace Stage

/-- A walk that is inside a node waits for the work that the node has handed out. If that is a
question, it is the last one. -/
def Entered (executor : Executor) (asked : Option CapabilityRequest) : Stage → Prop
  | .inside _ _ run => (executor.enter run.node run.before).1 = .handedOut run.work ∧
      ∀ request ∈ run.work.question?, asked = some request
  | .between _ | .ended _ => True

variable {executor : Executor} {stage : Stage} {asked : Option CapabilityRequest}

/-- A step of a walk leaves a decision exactly if it leaves the record of a capability node without
an error, and then it is the answer to the last question; and where it comes to, the walk waits for
no other question than the last. -/
structure Consults (executor : Executor) (asked : Option CapabilityRequest)
    (step : Stage × List Effect) : Prop where
  squares : Squares executor (lastQuestion asked step.2) step.2
  entered : step.1.Entered executor (lastQuestion asked step.2)

theorem consults_ended {result : Except WalkError Context} {effects : List Effect}
    (quiet : ∀ effect ∈ effects, effect.Quiet) : Consults executor asked (.ended result, effects) :=
  ⟨squares_of_quiet quiet, trivial⟩

theorem consults_resume {result : Except NodeError NodeOutcome} {effects : List Effect}
    (squares : Squares executor (lastQuestion asked effects) effects) (walk : Walk) (id : String) :
    Consults executor asked (walk.resume id result, effects) := by
  refine ⟨squares, ?_⟩
  cases result <;> trivial

theorem consults_inside {run : NodeRun} {effects : List Effect}
    (squares : Squares executor (lastQuestion asked effects) effects)
    (handedOut : (executor.enter run.node run.before).1 = .handedOut run.work)
    (last : lastQuestion asked effects = run.work.question?.or asked) (walk : Walk) (id : String) :
    Consults executor asked (.inside walk id run, effects) := by
  refine ⟨squares, handedOut, fun request asks => ?_⟩
  dsimp only
  rw [last, asks]
  rfl

theorem consults_advance (entered : stage.Entered executor asked) (cancelled : Bool)
    (now : Timestamp) : Consults executor asked (stage.advance executor cancelled now) := by
  cases stage with
  | ended result => exact consults_ended (List.forall_mem_nil _)
  | inside walk id run =>
    obtain ⟨handedOut, same⟩ := entered
    have nobody : (executor.finish cancelled now run).2.filterMap Effect.request? =
        (none : Option CapabilityRequest).toList := executor.request?_finish cancelled now run
    have last : lastQuestion asked (executor.finish cancelled now run).2 = asked :=
      lastQuestion_eq nobody
    have squares := (executor.squares_finish handedOut cancelled now).of_question same
    rw [← last] at squares
    exact consults_resume squares walk id
  | between walk =>
    obtain ⟨stack, visited, context⟩ := walk
    cases stack with
    | nil => exact consults_ended (List.forall_mem_nil _)
    | cons id rest =>
      simp only [advance, Walk.visitNext]
      by_cases stop : cancelled = true
      · rw [if_pos stop]
        exact consults_ended (List.forall_mem_nil _)
      · rw [if_neg stop]
        by_cases seen : visited.contains id = true
        · rw [if_pos seen]
          exact consults_ended (List.forall_mem_singleton.mpr trivial)
        · rw [if_neg seen]
          cases executor.registry.decision? id with
          | none => exact consults_ended (List.forall_mem_nil _)
          | some node =>
            have squares := executor.squares_begin now node context asked
            have last := @lastQuestion_eq asked _ _ (executor.request?_begin now node context)
            have came := executor.begin_outcome false now node context
            dsimp only
            generalize executor.begin false now node context = began at squares last came ⊢
            obtain ⟨result | run, effects⟩ := began
            · exact consults_resume squares _ id
            · obtain ⟨sameNode, sameContext, handedOut⟩ := came
              rw [handedOut] at last
              rw [← sameNode, ← sameContext] at handedOut
              exact consults_inside squares handedOut last _ id

end Stage

end Switchyard
