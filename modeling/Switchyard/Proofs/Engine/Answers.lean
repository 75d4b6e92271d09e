import Switchyard.Proofs.Engine.Steps
import Switchyard.Proofs.Execution.Turns
set_option autoImplicit false

/-! What a request is answered with and what its steps do, read off its walk, or off the legacy path
when the engine is disabled. Main statements: `soloSteps_walk`, `soloSteps_answerByLegacy`. -/
namespace Switchyard

/-- Where the walk of a request is; a request that has arrived is about to start it. -/
def Phase.stage (controller : Controller) (request : Request) : Phase → Stage
  | .arrived => Walk.start controller.root (Controller.prepare request)
  | .walking stage => stage

def Phase.opening (request : Request) : Phase → List Effect
  | .arrived => Effect.warnings (Controller.prepareWarnings request)
  | .walking _ => []

namespace Engine

section Answered

variable {engine : Engine} {live : LiveRequest} {now : Timestamp} {reply : Reply}

theorem not_answered_nil {seq : Nat} : ¬ Answered [] seq reply := by
  rintro ⟨step, inside, -⟩
  cases inside

theorem answered_cons_of_goesOn {seq : Nat} {effects : List Effect} {steps : List Happening}
    (answered : Answered ({ effects := effects } :: steps) seq reply) :
    Answered steps seq reply := by
  obtain ⟨step, inside, ended⟩ := answered
  rcases List.mem_cons.mp inside with rfl | later
  · cases ended
  · exact ⟨step, later, ended⟩

theorem reply_of_last {seq : Nat} {effects : List Effect} {last : Reply}
    (answered : Answered [{ effects := effects, ended := some (seq, last) }] seq reply) :
    reply = last := by
  obtain ⟨step, inside, ended⟩ := answered
  rw [List.mem_singleton.mp inside] at ended
  exact (Prod.mk.inj (Option.some.inj ended)).2.symm

/-- Nobody had cancelled the request at any of these steps. -/
def Calm (told : List (Timestamp × Bool)) : Prop := ∀ moment ∈ told, moment.2 = false

/-- The walk of a request takes some steps from where it is and comes to a result, which is
concluded at some time with this reply; all that has been done by then are these effects. -/
structure AnswersAlong (engine : Engine) (live : LiveRequest) (told : List (Timestamp × Bool))
    (result : Except WalkError Context) (now : Timestamp) (effects : List Effect)
    (reply : Reply) : Prop where
  ended : (live.phase.stage engine.controller live.request).advanceAll
    engine.controller.executor told = .ended result
  replies : reply = (engine.controller.conclude now live.request result).1
  does : effects = live.phase.opening live.request ++
    (live.phase.stage engine.controller live.request).effectsAlong
      engine.controller.executor told ++
    ((engine.controller.conclude now live.request result).2 ++ closing reply)

theorem answersAlong_of_ended (enabled : engine.controller.enabled = true)
    {effects : List Effect} (ended : engine.advance now live = (.inl reply, effects)) :
    ∃ result, engine.AnswersAlong live [] result now (effects ++ closing reply) reply := by
  rcases ended_cases ended with ⟨disabled, -, -⟩ | ⟨result, walked, concluded⟩
  · rw [enabled] at disabled
    cases disabled
  · refine ⟨result, ?_, by rw [concluded], ?_⟩
    · rw [walked]
      rfl
    · rw [walked, concluded]
      rfl

/-- A step that does not end the request is a step of its walk, or none yet. -/
theorem answersAlong_of_went {phase : Phase} {effects later : List Effect}
    (went : engine.advance now live = (.inr phase, effects)) {told : List (Timestamp × Bool)}
    {result : Except WalkError Context} {last : Timestamp}
    (answers : engine.AnswersAlong { live with phase := phase } told result last later reply) :
    ∃ whole, engine.AnswersAlong live whole result last (effects ++ later) reply ∧
      (live.cancelled = false → Calm told → Calm whole) := by
  rcases went_cases went with ⟨-, arrived, rfl, rfl⟩ | ⟨stage, walking, -, rfl, rfl⟩
  · refine ⟨told, ⟨?_, answers.replies, ?_⟩, fun _ calm => calm⟩
    · rw [arrived]
      exact answers.ended
    · rw [arrived, answers.does]
      exact (List.append_assoc _ _ _).symm
  · refine ⟨(now, live.cancelled) :: told, ⟨?_, answers.replies, ?_⟩, fun goesOn calm => ?_⟩
    · rw [walking]
      exact answers.ended
    · rw [walking, answers.does]
      exact (List.append_assoc _ _ _).symm
    · exact List.forall_mem_cons.mpr ⟨goesOn, calm⟩

/-- An enabled engine answers a request as its walk wants it, and the steps of the request do what
its walk does. Unless somebody cancels the request, its walk does not hear of any cancellation. -/
theorem soloSteps_walk (enabled : engine.controller.enabled = true)
    {events : List (Timestamp × Event)}
    (answered : Answered (engine.soloSteps live events) live.seq reply) :
    ∃ told result now,
      engine.AnswersAlong live told result now (effectsOf (engine.soloSteps live events)) reply ∧
      (live.cancelled = false →
        (∀ event ∈ events, event.2.cancels live.request.correlationId = false) → Calm told) := by
  induction events generalizing live with
  | nil => exact absurd answered not_answered_nil
  | cons event later ih =>
    obtain ⟨time, event⟩ := event
    by_cases step : event = .step live.seq
    · subst step
      cases advanced : engine.advance time live with
      | mk outcome effects =>
        cases outcome with
        | inl last =>
          rw [soloSteps_last advanced] at answered ⊢
          obtain rfl := reply_of_last answered
          obtain ⟨result, answers⟩ := answersAlong_of_ended enabled advanced
          rw [effectsOf_singleton]
          exact ⟨[], result, time, answers, fun _ _ => List.forall_mem_nil _⟩
        | inr phase =>
          rw [soloSteps_step advanced] at answered ⊢
          obtain ⟨told, result, now, answers, calm⟩ :=
            @ih { live with phase := phase } (answered_cons_of_goesOn answered)
          obtain ⟨whole, along, stays⟩ := answersAlong_of_went advanced answers
          rw [effectsOf_cons]
          refine ⟨whole, result, now, along, fun goesOn spared => ?_⟩
          exact stays goesOn (calm goesOn (List.forall_mem_cons.mp spared).2)
    · by_cases drop : event = .drop live.seq
      · subst drop
        rw [soloSteps_drop] at answered
        exact absurd answered not_answered_nil
      · rw [soloSteps_other step drop] at answered ⊢
        obtain ⟨told, result, now, answers, calm⟩ := @ih (reachedBy event live) answered
        have along : engine.AnswersAlong live told result now
            (effectsOf (engine.soloSteps (reachedBy event live) later)) reply :=
          ⟨answers.ended, answers.replies, answers.does⟩
        refine ⟨told, result, now, along, fun goesOn spared => ?_⟩
        obtain ⟨sparedNow, sparedLater⟩ := List.forall_mem_cons.mp spared
        refine calm ?_ sparedLater
        rw [reachedBy, goesOn, Bool.false_or]
        exact sparedNow

theorem advance_disabled (disabled : engine.controller.enabled = false)
    (arrived : live.phase = .arrived) :
    engine.advance now live =
      (.inl (engine.controller.answerByLegacy now live.request).1,
        (engine.controller.answerByLegacy now live.request).2) := by
  rw [advance, arrived]
  exact if_neg (by rw [disabled]; exact Bool.false_ne_true)

theorem soloSteps_answerByLegacy (disabled : engine.controller.enabled = false)
    (arrived : live.phase = .arrived) {events : List (Timestamp × Event)}
    (answered : Answered (engine.soloSteps live events) live.seq reply) :
    ∃ time, reply = (engine.controller.answerByLegacy time live.request).1 ∧
      effectsOf (engine.soloSteps live events) =
        (engine.controller.answerByLegacy time live.request).2 ++ closing reply := by
  induction events generalizing live with
  | nil => exact absurd answered not_answered_nil
  | cons event later ih =>
    obtain ⟨time, event⟩ := event
    by_cases step : event = .step live.seq
    · subst step
      have advanced := @advance_disabled engine live time disabled arrived
      rw [soloSteps_last advanced] at answered ⊢
      obtain rfl := reply_of_last answered
      exact ⟨time, rfl, effectsOf_singleton _⟩
    · by_cases drop : event = .drop live.seq
      · subst drop
        rw [soloSteps_drop] at answered
        exact absurd answered not_answered_nil
      · rw [soloSteps_other step drop] at answered ⊢
        exact @ih (reachedBy event live) arrived answered

end Answered

end Engine

end Switchyard
