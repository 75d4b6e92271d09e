import Switchyard.Proofs.Engine.Answers
import Switchyard.Proofs.Execution.Footprints
set_option autoImplicit false

/-! A request among whatever else happens to an engine: what went on before it was started, and what
goes on while it is live. Main statement: `Occasion.walk`, an answered request has walked to a
result, and its steps leave the footprints of the walk. -/
namespace Switchyard.Engine

structure Occasion where
  before : List (Timestamp × Event)
  startedAt : Timestamp
  request : Request
  during : List (Timestamp × Event)

namespace Occasion

/-- The number that the engine gives the request. -/
def seq (engine : Engine) (occasion : Occasion) : Nat :=
  (engine.run engine.initial occasion.before).nextSeq

/-- What the steps of the request do. -/
def steps (engine : Engine) (occasion : Occasion) : List Happening :=
  engine.stepsOf (occasion.seq engine)
    (engine.run engine.initial (occasion.before ++ [(occasion.startedAt, .start occasion.request)]))
    occasion.during

/-- Nobody cancels the request: the engine is not shut down before it is started, and nothing that
happens later cancels it. -/
structure Spared (occasion : Occasion) : Prop where
  before : ∀ event ∈ occasion.before, event.2 ≠ .shutdown
  during : ∀ event ∈ occasion.during,
    event.2.cancels occasion.request.correlationId = false

/-- The request takes enough steps and is not given up. -/
structure Served (engine : Engine) (occasion : Occasion) : Prop where
  kept : ∀ event ∈ occasion.during, event.2 ≠ .drop (occasion.seq engine)
  enough : engine.maxSteps ≤ (stepTimes (occasion.seq engine) occasion.during).length

variable {engine : Engine} {occasion : Occasion} {reply : Reply}

/-- The request as it is put in. -/
def live (engine : Engine) (occasion : Occasion) : LiveRequest :=
  ⟨occasion.seq engine, occasion.request,
    (engine.run engine.initial occasion.before).stopped, .arrived⟩

theorem steps_eq (engine : Engine) (occasion : Occasion) :
    occasion.steps engine = engine.soloSteps (occasion.live engine) occasion.during :=
  engine.stepsOf_start occasion.before occasion.startedAt occasion.request occasion.during

theorem Served.answered (served : occasion.Served engine) :
    ∃ reply, Answered (occasion.steps engine) (occasion.seq engine) reply := by
  rw [steps_eq]
  exact soloSteps_end_of_arrived (occasion.live engine) rfl served.kept served.enough

/-- An answered request has walked to a result, has been answered as its walk wants it, and has left
the footprints of its walk. Unless somebody cancels the request, its walk does not hear of any
cancellation. -/
theorem walk (enabled : engine.controller.enabled = true)
    (answered : Answered (occasion.steps engine) (occasion.seq engine) reply) :
    ∃ told result now,
      (Walk.start engine.controller.root (Controller.prepare occasion.request)).advanceAll
        engine.controller.executor told = .ended result ∧
      reply = (engine.controller.conclude now occasion.request result).1 ∧
      footprints (effectsOf (occasion.steps engine)) =
        footprints ((Walk.start engine.controller.root
          (Controller.prepare occasion.request)).effectsAlong engine.controller.executor told) ∧
      (occasion.Spared → Calm told) := by
  rw [steps_eq] at answered ⊢
  obtain ⟨told, result, now, along, calm⟩ :=
    @soloSteps_walk engine (occasion.live engine) reply enabled occasion.during answered
  refine ⟨told, result, now, along.ended, along.replies, ?_, fun spared => ?_⟩
  · have opening : footprints (Phase.opening occasion.request .arrived) = [] :=
      footprints_warnings _
    have ending : footprints
        ((engine.controller.conclude now occasion.request result).2 ++ closing reply) = [] :=
      footprints_of_quiet (List.forall_mem_append.mpr
        ⟨engine.controller.conclude_quiet now occasion.request result, closing_quiet reply⟩)
    have does := congrArg footprints along.does
    rw [footprints_append, footprints_append] at does
    rw [does]
    change footprints (Phase.opening occasion.request .arrived) ++ _ ++
      footprints ((engine.controller.conclude now occasion.request result).2 ++ closing reply) = _
    rw [opening, ending, List.nil_append, List.append_nil]
    rfl
  · exact calm (engine.run_stopped engine.initial spared.before) spared.during

theorem legacy (disabled : engine.controller.enabled = false)
    (answered : Answered (occasion.steps engine) (occasion.seq engine) reply) :
    ∃ now, reply = (engine.controller.answerByLegacy now occasion.request).1 ∧
      footprints (effectsOf (occasion.steps engine)) = [] := by
  rw [steps_eq] at answered ⊢
  obtain ⟨now, replies, does⟩ :=
    @soloSteps_answerByLegacy engine (occasion.live engine) reply disabled rfl _ answered
  refine ⟨now, replies, ?_⟩
  rw [does]
  exact footprints_of_quiet (List.forall_mem_append.mpr
    ⟨engine.controller.answerByLegacy_quiet now occasion.request, closing_quiet reply⟩)

end Occasion

end Switchyard.Engine
