import Switchyard.Proofs.Engine.Frame
import Switchyard.Proofs.Trace.Calls
set_option autoImplicit false

/-! What happens in a run of an engine, and what the engine calls its recorder for. Main statement:
`Engine.run_recorder`, the recorder after a run is where those calls have brought it, so that what
is known of calls is known of runs. -/
namespace Switchyard

namespace Effect

/-- What the recorder is called for when an effect reaches it. -/
def call? (now : Timestamp) : Effect → Option Recorder.Call
  | .activated nodeId activation => some (.recordActivation nodeId activation)
  | .decided id decision => some (.recordDecision id decision)
  | .recorded record => some (.record now record)
  | .warned _ | .asked _ | .calledLegacy _ => none

def calls (now : Timestamp) (effects : List Effect) : List Recorder.Call :=
  effects.filterMap (call? now)

end Effect

theorem Recorder.applyAll_eq_run (now : Timestamp) (recorder : Recorder) (effects : List Effect) :
    recorder.applyAll now effects = recorder.run (Effect.calls now effects) := by
  unfold applyAll
  induction effects generalizing recorder with
  | nil => rfl
  | cons effect rest ih =>
    rw [List.foldl_cons, ih, Effect.calls, Effect.calls, List.filterMap_cons]
    cases effect <;> rfl

namespace Engine

variable (engine : Engine)

/-- What happens in a run, event by event. -/
def happenings : State → List (Timestamp × Event) → List Happening
  | _, [] => []
  | state, (now, event) :: later =>
    let (after, happening) := engine.handle now state event
    happening :: happenings after later

def calls (now : Timestamp) (state : State) : Event → List Recorder.Call
  | .start request => [.beginRequest request.correlationId]
  | .step seq =>
    match state.find? seq with
    | none => []
    | some live =>
      match engine.advance now live with
      | (.inr _, effects) => Effect.calls now effects
      | (.inl _, _) => [.finishRequest live.request.correlationId]
  | .drop seq =>
    match state.find? seq with
    | none => []
    | some live => [.finishRequest live.request.correlationId]
  | .cancel _ | .shutdown => []
  | .purge cutoff => [.purgeBefore cutoff]

def callsAlong : State → List (Timestamp × Event) → List Recorder.Call
  | _, [] => []
  | state, (now, event) :: later =>
    engine.calls now state event ++ callsAlong (engine.handle now state event).1 later

theorem happenings_cons (state : State) (event : Timestamp × Event)
    (later : List (Timestamp × Event)) :
    engine.happenings state (event :: later) =
      (engine.handle event.1 state event.2).2 ::
        engine.happenings (engine.handle event.1 state event.2).1 later := rfl

theorem callsAlong_cons (state : State) (event : Timestamp × Event)
    (later : List (Timestamp × Event)) :
    engine.callsAlong state (event :: later) =
      engine.calls event.1 state event.2 ++
        engine.callsAlong (engine.handle event.1 state event.2).1 later := rfl

/-! A step in equations: it goes on, or it ends the request. -/

section Step

variable {engine} {state : State} {seq : Nat} {live : LiveRequest} {now : Timestamp}
  {effects : List Effect}

theorem stepSeq_went (found : state.find? seq = some live) {phase : Phase}
    (went : engine.advance now live = (.inr phase, effects)) :
    engine.stepSeq now state seq =
      ({ state.setPhase seq phase with recorder := state.recorder.applyAll now effects },
        { effects := effects }) := by
  simp only [stepSeq, found, went]

theorem stepSeq_ended (found : state.find? seq = some live) {reply : Reply}
    (ended : engine.advance now live = (.inl reply, effects)) :
    engine.stepSeq now state seq =
      (({ state with recorder := state.recorder.applyAll now (effects ++ closing reply) } :
          State).release live,
        { effects := effects ++ closing reply, ended := some (seq, reply) }) := by
  simp only [stepSeq, found, ended]

theorem calls_went (found : state.find? seq = some live) {phase : Phase}
    (went : engine.advance now live = (.inr phase, effects)) :
    engine.calls now state (.step seq) = Effect.calls now effects := by
  simp only [calls, found, went]

theorem calls_ended (found : state.find? seq = some live) {reply : Reply}
    (ended : engine.advance now live = (.inl reply, effects)) :
    engine.calls now state (.step seq) = [.finishRequest live.request.correlationId] := by
  simp only [calls, found, ended]

end Step

theorem handle_recorder (now : Timestamp) (state : State) (event : Event) :
    (engine.handle now state event).1.recorder =
      state.recorder.run (engine.calls now state event) := by
  cases event with
  | start request =>
    change (state.cancel request.correlationId).1.recorder.beginRequest _ = _
    rw [State.cancel_recorder]
    rfl
  | step seq =>
    change (engine.stepSeq now state seq).1.recorder = _
    rcases engine.stepSeq_cases now state seq with
      ⟨gone, same⟩ | ⟨live, phase, effects, found, went, same⟩ |
        ⟨live, reply, effects, found, ended, same⟩
    · simp only [same, calls, gone]
      rfl
    · rw [same, calls_went found went]
      exact Recorder.applyAll_eq_run now state.recorder effects
    · have silent := state.recorder.applyAll_of_quiet now (quiet_of_ended ended)
      rw [same, calls_ended found ended]
      change (state.recorder.applyAll now (effects ++ closing reply)).finishRequest _ = _
      rw [silent]
      rfl
  | drop seq =>
    simp only [handle, calls]
    cases state.find? seq <;> rfl
  | cancel id => exact State.cancel_recorder state id
  | shutdown => rfl
  | purge cutoff => rfl

/-- The event is a step of a walking request that leaves this effect. -/
def StepLeaves (now : Timestamp) (state : State) (event : Event) (effect : Effect) : Prop :=
  ∃ live ∈ state.live, event = .step live.seq ∧ ∃ stage, live.phase = .walking stage ∧
    effect ∈ (stage.advance engine.controller.executor live.cancelled now).2

theorem stepLeaves_of_loud {now : Timestamp} {state : State} {seq : Nat} {effect : Effect}
    (done : effect ∈ (engine.stepSeq now state seq).2.effects) (loud : ¬ effect.Quiet) :
    engine.StepLeaves now state (.step seq) effect := by
  rcases engine.stepSeq_cases now state seq with
    ⟨-, same⟩ | ⟨live, phase, effects, found, went, same⟩ | ⟨live, reply, effects, -, ended, same⟩
  · rw [same] at done
    cases done
  · rw [same] at done
    obtain ⟨inside, sameSeq⟩ := State.mem_of_find? found
    rcases went_cases went with ⟨-, -, -, rfl⟩ | ⟨stage, walking, -, -, rfl⟩
    · exact absurd (Effect.quiet_of_mem_warnings done) loud
    · exact ⟨live, inside, by rw [sameSeq], stage, walking, done⟩
  · rw [same] at done
    exact absurd (quiet_of_ended ended effect done) loud

/-- Records and decisions come from steps of walking requests, purges from nothing but purges. -/
def Origin (now : Timestamp) (state : State) (event : Event) : Recorder.Call → Prop
  | .record _ made => engine.StepLeaves now state event (.recorded made)
  | .recordDecision id decision => engine.StepLeaves now state event (.decided id decision)
  | .purgeBefore cutoff => event = .purge cutoff
  | .beginRequest _ | .recordActivation .. | .finishRequest _ => True

theorem origin_of_calls {now : Timestamp} {state : State} {event : Event} {call : Recorder.Call}
    (inside : call ∈ engine.calls now state event) : engine.Origin now state event call := by
  cases event with
  | start request =>
    rw [List.mem_singleton.mp inside]
    trivial
  | step seq =>
    rcases engine.stepSeq_cases now state seq with
      ⟨gone, -⟩ | ⟨live, phase, effects, found, went, -⟩ | ⟨live, reply, effects, found, ended, -⟩
    · simp only [calls, gone] at inside
      cases inside
    · rw [calls_went found went] at inside
      obtain ⟨effect, done, called⟩ := List.mem_filterMap.mp inside
      have leaves : ¬ effect.Quiet → engine.StepLeaves now state (.step seq) effect := by
        apply stepLeaves_of_loud
        rw [stepSeq_went found went]
        exact done
      cases effect with
      | recorded record =>
        rw [← Option.some.inj called]
        exact leaves id
      | activated nodeId activation =>
        rw [← Option.some.inj called]
        trivial
      | decided id decision =>
        rw [← Option.some.inj called]
        exact leaves fun impossible => impossible
      | warned | asked | calledLegacy => cases called
    · rw [calls_ended found ended] at inside
      rw [List.mem_singleton.mp inside]
      trivial
  | drop seq =>
    simp only [calls] at inside
    split at inside
    · cases inside
    · rw [List.mem_singleton.mp inside]
      trivial
  | cancel id => cases inside
  | shutdown => cases inside
  | purge cutoff =>
    rw [List.mem_singleton.mp inside]
    rfl

/-- The recorder after a run is where the calls of the run have brought it. -/
theorem run_recorder (state : State) (events : List (Timestamp × Event)) :
    (engine.run state events).recorder = state.recorder.run (engine.callsAlong state events) := by
  induction events generalizing state with
  | nil => rfl
  | cons event later ih =>
    rw [run_cons, ih, handle_recorder, callsAlong_cons, Recorder.run_append]

end Engine

end Switchyard
