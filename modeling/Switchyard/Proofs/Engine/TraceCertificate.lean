import Switchyard.Proofs.Engine.Projection
import Switchyard.Proofs.Execution.Certificate
set_option autoImplicit false

/-! What the recorder holds of a request when it ends certifies its walk, whatever else the engine
did meanwhile. -/
namespace Switchyard.Engine

/-- The request is the one that was made, and its trace fits how far it has come. -/
structure Own.Fits (engine : Engine) (request : Request) (own : Own) : Prop where
  request_eq : own.live.request = request
  trace : match own.live.phase with
    | .arrived => own.trace = []
    | .walking stage => stage.Fits engine.controller.executor.registry own.trace

section Fits

variable {engine : Engine} {request : Request}

theorem Own.Fits.step (keyed : engine.controller.executor.registry.Keyed) {now : Timestamp}
    {own after : Own} (fits : own.Fits engine request)
    (stepped : own.step engine now = some after) : after.Fits engine request := by
  obtain ⟨phase, effects, advanced, rfl⟩ := Own.went_of_step stepped
  refine ⟨fits.request_eq, ?_⟩
  have trace := fits.trace
  rcases went_cases advanced with ⟨-, arrived, rfl, rfl⟩ | ⟨stage, walking, -, rfl, rfl⟩
  · rw [arrived] at trace
    have quiet : ∀ effect ∈ Effect.warnings (Controller.prepareWarnings own.live.request),
        effect.Quiet := fun effect inside => Effect.quiet_of_mem_warnings inside
    simp only [Own.went, Effect.filterMap_record?_of_quiet quiet, trace]
    exact fits_start engine.controller.executor.registry _
  · rw [walking] at trace
    exact fits_advance keyed own.live.cancelled now trace

theorem Own.Fits.respond (keyed : engine.controller.executor.registry.Keyed) {now : Timestamp}
    {own after : Own} {event : Event} (fits : own.Fits engine request)
    (responds : own.respond engine now event = some after) : after.Fits engine request := by
  rcases Own.respond_cases responds with ⟨-, stepped⟩ | ⟨-, -, rfl⟩
  · exact fits.step keyed stepped
  · split
    · exact ⟨fits.request_eq, fits.trace⟩
    · exact fits

theorem Own.ended_of_ending? (enabled : engine.controller.enabled = true) {now : Timestamp}
    {own : Own} {reply : Reply} (ends : own.ending? engine now = some reply) :
    ∃ result, own.live.phase = .walking (.ended result) ∧
      reply = (engine.controller.conclude now own.live.request result).1 := by
  unfold Own.ending? at ends
  split at ends
  · cases ends
  · rename_i made effects atEnd
    obtain rfl := Option.some.inj ends
    rcases ended_cases atEnd with ⟨disabled, -, -⟩ | ⟨result, walked, concluded⟩
    · rw [enabled] at disabled
      cases disabled
    · exact ⟨result, walked, by rw [concluded]⟩

end Fits

/-- Whatever else the engine does meanwhile, the trace that is there when a request ends certifies
the walk that the request was answered by. -/
theorem trace_certifies_walk {engine : Engine} (stay : Stay engine)
    (accepted : engine.controller.executor.registry.Accepted)
    (enabled : engine.controller.enabled = true) {endedAt : Timestamp} {reply : Reply}
    (ended : (engine.handle endedAt stay.state (.step stay.seq)).2.ended =
      some (stay.seq, reply)) :
    ∃ live result stack,
      stay.state.find? stay.seq = some live ∧ live.request = stay.request ∧
      live.phase = .walking (.ended result) ∧
      reply = (engine.controller.conclude endedAt stay.request result).1 ∧
      Certifies engine.controller.executor.registry
        ((engine.handle endedAt stay.state (.step stay.seq)).1.recorder.traces
          stay.request.correlationId) stack result := by
  obtain ⟨own, found, followed, ends, traces, -⟩ := stay.ended ended
  obtain ⟨live, foundLive, rfl⟩ := Option.map_eq_some_iff.mp found
  have arrived : stay.arrival.Fits engine stay.request := ⟨rfl, rfl⟩
  have fits := Own.follow_preserves
    (fun own now event after fits responds => Own.Fits.respond accepted.keyed fits responds)
    arrived followed
  obtain ⟨result, walked, answered⟩ := Own.ended_of_ending? enabled ends
  have sameRequest : live.request = stay.request := fits.request_eq
  have trace := fits.trace
  rw [walked] at trace
  obtain ⟨stack, certifies⟩ := trace
  refine ⟨live, result, stack, foundLive, sameRequest, walked, ?_, ?_⟩
  · rw [← sameRequest]
    exact answered
  · have right : (engine.handle endedAt stay.state (.step stay.seq)).1.recorder.traces
        stay.request.correlationId = stay.state.recorder.traces live.request.correlationId := by
      rw [← sameRequest]
      exact traces
    rw [right]
    exact certifies

/-- The second request of the sample ends with its next step, and its trace certifies its walk. -/
theorem trace_certifies_sample_walk :
    ∃ reply result stack,
      (Sample.engine.handle ⟨10, false⟩ Sample.stay.state (.step Sample.stay.seq)).2.ended =
        some (Sample.stay.seq, reply) ∧
      reply = (Sample.engine.controller.conclude ⟨10, false⟩ (Sample.request "second") result).1 ∧
      Certifies Sample.registry
        ((Sample.engine.handle ⟨10, false⟩ Sample.stay.state
          (.step Sample.stay.seq)).1.recorder.traces "second") stack result := by
  have read : Registry.ofDefinition Sample.graph = .ok Sample.registry := by rfl
  obtain ⟨live, result, stack, -, -, -, answered, certifies⟩ :=
    trace_certifies_walk Sample.stay (Registry.accepted_of_ofDefinition read) rfl rfl
  exact ⟨_, result, stack, rfl, answered, certifies⟩

end Switchyard.Engine
