import Switchyard.Proofs.Execution.Untimed
import Switchyard.Proofs.Execution.Walk
set_option autoImplicit false

/-! How a request is answered once its walk is over, and what the legacy path is called for. Walking
itself never calls it. -/
namespace Switchyard

def legacyCalls (effects : List Effect) : List LegacyCall := effects.filterMap Effect.legacyCall?

@[simp] theorem legacyCalls_nil : legacyCalls [] = [] := rfl

@[simp] theorem legacyCalls_append (first later : List Effect) :
    legacyCalls (first ++ later) = legacyCalls first ++ legacyCalls later :=
  List.filterMap_append

@[simp] theorem legacyCalls_warnings (list : List Warning) :
    legacyCalls (Effect.warnings list) = [] := by
  refine List.filterMap_eq_nil_iff.mpr fun effect inside => ?_
  obtain ⟨warning, -, rfl⟩ := List.mem_map.mp inside
  rfl

/-! Walking leaves the legacy path alone. -/

namespace Executor

variable (executor : Executor)

@[simp] theorem legacyCalls_enter (node : DecisionNode) (context : Context) :
    legacyCalls (executor.enter node context).2 = [] := by
  unfold enter
  split
  · exact legacyCalls_warnings _
  · split
    · exact legacyCalls_warnings _
    · rfl
  · rfl
  · split
    · exact legacyCalls_warnings _
    · rfl

@[simp] theorem legacyCalls_announce (work : Work) : legacyCalls (executor.announce work) = [] := by
  cases work with
  | leaf node context => exact legacyCalls_warnings _
  | capability request context => rfl

@[simp] theorem legacyCalls_answer (work : Work) : legacyCalls (executor.answer work).2 = [] := by
  unfold answer
  split
  · dsimp only
    split
    · exact legacyCalls_warnings _
    · rfl
  · dsimp only
    split
    · rfl
    · split
      · rw [legacyCalls_append, legacyCalls_warnings]
        rfl
      · rfl

@[simp] theorem legacyCalls_finish (cancelled : Bool) (now : Timestamp) (run : NodeRun) :
    legacyCalls (executor.finish cancelled now run).2 = [] := by
  obtain ⟨node, before, startedAt, work⟩ := run
  have closing : ∀ result, legacyCalls (close work startedAt now result).2 = [] := by
    intro result
    cases work <;> rfl
  have recorded : ∀ record, legacyCalls [.recorded record] = [] := fun _ => rfl
  cases cancelled <;> simp [finish, settle, closing, recorded]

@[simp] theorem legacyCalls_begin (cancelled : Bool) (now : Timestamp) (node : DecisionNode)
    (context : Context) : legacyCalls (executor.begin cancelled now node context).2 = [] := by
  have entering := executor.legacyCalls_enter node context
  unfold «begin»
  generalize executor.enter node context = entered at entering ⊢
  obtain ⟨begun, effects⟩ := entered
  change legacyCalls effects = [] at entering
  cases begun with
  | settled outcome decision =>
    rw [legacyCalls_append, entering]
    rfl
  | handedOut work =>
    dsimp only
    split
    · simp [entering]
    · split <;> simp [entering]

end Executor

@[simp] theorem legacyCalls_advance (executor : Executor) (cancelled : Bool) (now : Timestamp)
    (stage : Stage) : legacyCalls (stage.advance executor cancelled now).2 = [] := by
  cases stage with
  | ended result => rfl
  | inside walk id run => exact executor.legacyCalls_finish cancelled now run
  | between walk =>
    change legacyCalls (walk.visitNext executor cancelled now).2 = []
    unfold Walk.visitNext
    split
    · rfl
    · split
      · rfl
      · split
        · rfl
        · split
          · rfl
          · rename_i node _
            have beginning := executor.legacyCalls_begin false now node walk.context
            dsimp only
            split
            · rename_i began
              rw [began] at beginning
              exact beginning
            · rename_i began
              rw [began] at beginning
              exact beginning

theorem legacyCalls_walk (executor : Executor) (cancelled : Bool) (now : Timestamp)
    (stage : Stage) : legacyCalls (stage.finish executor cancelled now).2 = [] := by
  induction stage using Stage.finish.induct executor cancelled now with
  | case1 result => rw [Stage.finish, legacyCalls_nil]
  | case2 walk step ih =>
    rw [Stage.finish]
    exact (legacyCalls_append _ _).trans (by rw [ih, legacyCalls_advance]; rfl)
  | case3 walk id run step ih =>
    rw [Stage.finish]
    exact (legacyCalls_append _ _).trans (by rw [ih, legacyCalls_advance]; rfl)

/-! The answer after a walk. -/

namespace Controller

/-- The request has been answered as the result of its walk wants it, with these calls of the legacy
path meanwhile. -/
structure Disposes (controller : Controller) (request : Request)
    (result : Except WalkError Context) (reply : Reply) (calls : List LegacyCall) : Prop where
  answered : ∀ context, result = .ok context → calls = [] ∧
    ∃ answer now, reply = .ok answer ∧ answer.source = .graph ∧
      answer = graphResult now request.correlationId context
  cancelled : result = .error .cancelled → calls = []
  strict : controller.strategy = .strict → ∀ error, result = .error error →
    calls = [] ∧ reply = .error (.walk error)
  /-- The legacy path is called for what the caller has asked, and the answer is that of a
  controller that never walks. -/
  recovered : controller.strategy ≠ .strict → ∀ error, result = .error error →
    error ≠ .cancelled → calls = [request.legacyCall] ∧
      ∀ cancelled now, reply.untimed =
        (({ controller with enabled := false } : Controller).run cancelled now request).1.untimed

variable (controller : Controller) (now : Timestamp) (request : Request)

theorem legacyCalls_answerByLegacy :
    legacyCalls (controller.answerByLegacy now request).2 = [request.legacyCall] := by
  unfold answerByLegacy askLegacy
  cases controller.legacy request.legacyCall with
  | ok response => rfl
  | error error => cases controller.strategy <;> rfl

theorem recover_eq_answerByLegacy {error : WalkError} (lenient : controller.strategy ≠ .strict)
    (goesOn : error ≠ .cancelled) :
    (controller.recover now request error).1 = (controller.answerByLegacy now request).1 ∧
      legacyCalls (controller.recover now request error).2 = [request.legacyCall] := by
  obtain ⟨executor, legacy, strategy, enabled⟩ := controller
  cases strategy with
  | strict => exact absurd rfl lenient
  | graceful | hybrid =>
    cases error with
    | cancelled => exact absurd rfl goesOn
    | missingNode | cycleDetected | nodeFailed =>
      unfold recover answerByLegacy askLegacy
      dsimp only
      cases legacy request.legacyCall <;> exact ⟨rfl, rfl⟩

theorem conclude_disposes (result : Except WalkError Context) :
    controller.Disposes request result (controller.conclude now request result).1
      (legacyCalls (controller.conclude now request result).2) := by
  cases result with
  | ok context =>
    exact {
      answered := fun other ok => ⟨rfl, _, now, rfl, rfl, by rw [Except.ok.inj ok]⟩
      cancelled := fun impossible => by cases impossible
      strict := fun _ _ impossible => by cases impossible
      recovered := fun _ _ impossible => by cases impossible }
  | error error =>
    constructor
    case answered =>
      intro context impossible
      cases impossible
    case cancelled =>
      intro cancelled
      rw [Except.error.inj cancelled]
      simp only [conclude, recover]
      cases controller.strategy <;> rfl
    case strict =>
      intro strict other failed
      rw [← Except.error.inj failed]
      obtain ⟨executor, legacy, strategy, enabled⟩ := controller
      obtain rfl : strategy = .strict := strict
      exact ⟨rfl, rfl⟩
    case recovered =>
      intro lenient other failed goesOn
      rw [← Except.error.inj failed] at goesOn
      obtain ⟨sameReply, calls⟩ := controller.recover_eq_answerByLegacy now request lenient goesOn
      refine ⟨calls, fun cancelled later => ?_⟩
      change Reply.untimed (controller.recover now request error).1 =
        Reply.untimed (controller.answerByLegacy later request).1
      rw [sameReply]
      exact (controller.answerByLegacy_alike now later request).outcome

/-- A controller that runs a request from beginning to end disposes of it. -/
theorem run_disposes (enabled : controller.enabled = true) (cancelled : Bool) :
    controller.Disposes request
      (controller.executor.walk cancelled now controller.root (prepare request)).1
      (controller.run cancelled now request).1
      (legacyCalls (controller.run cancelled now request).2) := by
  rw [run, if_pos enabled]
  simp only [legacyCalls_append, legacyCalls_warnings, List.nil_append]
  rw [Executor.walk, legacyCalls_walk, List.nil_append]
  exact controller.conclude_disposes now request _

theorem conclude_lenient (lenient : controller.strategy ≠ .strict)
    (result : Except WalkError Context) :
    ∃ answer, (controller.conclude now request result).1 = .ok answer := by
  obtain ⟨executor, legacy, strategy, enabled⟩ := controller
  cases result with
  | ok context => exact ⟨_, rfl⟩
  | error error =>
    cases strategy with
    | strict => exact absurd rfl lenient
    | graceful | hybrid =>
      unfold conclude recover askLegacy
      dsimp only
      cases error <;> cases legacy request.legacyCall <;> exact ⟨_, rfl⟩

theorem answerByLegacy_lenient (lenient : controller.strategy ≠ .strict) :
    ∃ answer, (controller.answerByLegacy now request).1 = .ok answer := by
  obtain ⟨executor, legacy, strategy, enabled⟩ := controller
  unfold answerByLegacy askLegacy
  dsimp only
  cases legacy request.legacyCall with
  | ok response => exact ⟨_, rfl⟩
  | error error =>
    cases strategy with
    | strict => exact absurd rfl lenient
    | graceful | hybrid => exact ⟨_, rfl⟩

/-- An answer that no walk has found: that of the legacy path, or the apology. -/
def Unwalked (answer : OrchestrationResult) : Prop :=
  (∃ response, answer = .ofLegacy request.correlationId { response := response, timestamp := now }) ∨
    answer = .apology request.correlationId now

variable {controller now request} {answer : OrchestrationResult}

theorem unwalked_of_answerByLegacy
    (answered : (controller.answerByLegacy now request).1 = .ok answer) :
    Unwalked now request answer := by
  unfold answerByLegacy askLegacy at answered
  cases found : controller.legacy request.legacyCall with
  | ok response =>
    rw [found] at answered
    exact Or.inl ⟨response, (Except.ok.inj answered).symm⟩
  | error failure =>
    rw [found] at answered
    dsimp only [Except.map] at answered
    split at answered
    · cases answered
    · exact Or.inr (Except.ok.inj answered).symm
    · exact Or.inr (Except.ok.inj answered).symm

theorem walked_or_unwalked {result : Except WalkError Context}
    (concluded : (controller.conclude now request result).1 = .ok answer) :
    (∃ context, result = .ok context ∧
      answer = graphResult now request.correlationId context) ∨ Unwalked now request answer := by
  cases result with
  | ok context => exact Or.inl ⟨context, rfl, (Except.ok.inj concluded).symm⟩
  | error error =>
    apply Or.inr
    have lenient : controller.strategy ≠ .strict := by
      intro strict
      obtain ⟨executor, legacy, strategy, enabled⟩ := controller
      obtain rfl : strategy = .strict := strict
      cases concluded
    by_cases stopped : error = .cancelled
    · subst stopped
      simp only [conclude, recover] at concluded
      split at concluded
      · cases concluded
      · exact Or.inr (Except.ok.inj concluded).symm
      · exact Or.inr (Except.ok.inj concluded).symm
    · apply unwalked_of_answerByLegacy
      rw [← (controller.recover_eq_answerByLegacy now request lenient stopped).1]
      exact concluded

variable (controller now request)

theorem conclude_lenient_alike (result : Except WalkError Context) :
    (({ controller with strategy := .graceful } : Controller).conclude now request result).1 =
      (({ controller with strategy := .hybrid } : Controller).conclude now request result).1 := by
  cases result with
  | ok context => rfl
  | error error =>
    unfold conclude recover askLegacy
    cases error <;> cases controller.legacy request.legacyCall <;> rfl

theorem answerByLegacy_lenient_alike :
    (({ controller with strategy := .graceful } : Controller).answerByLegacy now request).1 =
      (({ controller with strategy := .hybrid } : Controller).answerByLegacy now request).1 := by
  unfold answerByLegacy askLegacy
  cases controller.legacy request.legacyCall <;> rfl

end Controller

/-! Walks step by step. -/

namespace Stage

/-- The stage after some steps, each with its time and with whether the walk has been cancelled by
then. -/
def advanceAll (executor : Executor) (stage : Stage) (told : List (Timestamp × Bool)) : Stage :=
  told.foldl (fun stage moment => (stage.advance executor moment.2 moment.1).1) stage

theorem advanceAll_cons (executor : Executor) (stage : Stage) (moment : Timestamp × Bool)
    (later : List (Timestamp × Bool)) :
    stage.advanceAll executor (moment :: later) =
      (stage.advance executor moment.2 moment.1).1.advanceAll executor later := rfl

theorem advanceAll_append (executor : Executor) (stage : Stage)
    (told later : List (Timestamp × Bool)) :
    stage.advanceAll executor (told ++ later) =
      (stage.advanceAll executor told).advanceAll executor later :=
  List.foldl_append

/-- A step does not change what a walk comes to in the end. -/
theorem finish_advance (executor : Executor) (cancelled : Bool) (now : Timestamp) (stage : Stage) :
    ((stage.advance executor cancelled now).1.finish executor cancelled now).1 =
      (stage.finish executor cancelled now).1 := by
  cases stage with
  | ended result => rfl
  | between walk => rw [finish]
  | inside walk id run => rw [finish]

/-- A walk that is not cancelled comes to the same result at whatever times its steps are taken. -/
theorem finish_of_advanceAll (executor : Executor) (now : Timestamp) {stage : Stage}
    {told : List (Timestamp × Bool)} {result : Except WalkError Context}
    (uncancelled : ∀ moment ∈ told, moment.2 = false)
    (ended : stage.advanceAll executor told = .ended result) :
    (stage.finish executor false now).1 = result := by
  induction told generalizing stage with
  | nil =>
    obtain rfl : stage = .ended result := ended
    rw [finish]
  | cons moment later ih =>
    obtain ⟨time, cancelled⟩ := moment
    obtain ⟨rfl, others⟩ := List.forall_mem_cons.mp uncancelled
    have rest := ih others (stage.advanceAll_cons executor _ later ▸ ended)
    have stepped := stage_advance_alike executor false now time (Eq.refl stage.untimed)
    have alike := stage_finish_alike executor false now now stepped.outcome
    rw [← finish_advance]
    exact (show _ = _ from alike.outcome).trans rest

end Stage

end Switchyard
