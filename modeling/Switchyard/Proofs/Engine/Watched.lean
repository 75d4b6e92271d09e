import Switchyard.Proofs.Engine.Calls
import Switchyard.Proofs.Trace.Watched
set_option autoImplicit false

/-! Engines that differ only in how closely they are watched. Main statement:
`Engine.run_watchedBy`, where a run leads, and what happens in it, is what the watch sees of the
same run when everything is watched. -/
namespace Switchyard

def Settings.watchedBy (settings : Settings) (watch : Watch) : Settings :=
  { settings with
    traceMode := watch.mode
    monitorPerformance := watch.monitored
    validateInputs := watch.validated }

namespace Watch

variable (watch : Watch)

theorem calls_effects (now : Timestamp) (effects : List Effect) :
    Effect.calls now (watch.effects effects) = (Effect.calls now effects).map watch.call := by
  rw [Effect.calls, Effect.calls, Watch.effects, List.filterMap_filterMap, List.map_filterMap]
  congr 1
  funext effect
  cases effect with
  | warned warning =>
    cases warning with
    | missingInputs nodeId id missing =>
      simp only [effect?]
      cases watch.validated <;> rfl
    | _ => rfl
  | _ => rfl

theorem recorder_applyAll (recorder : Recorder) (now : Timestamp) (effects : List Effect) :
    watch.recorder (recorder.applyAll now effects) =
      (watch.recorder recorder).applyAll now (watch.effects effects) := by
  rw [Recorder.applyAll_eq_run, Recorder.applyAll_eq_run, recorder_run, calls_effects]

theorem effects_closing (reply : Reply) :
    watch.effects (Engine.closing reply) = Engine.closing reply := by
  cases reply <;> rfl

def state (state : Engine.State) : Engine.State :=
  { state with recorder := watch.recorder state.recorder }

def happening (happening : Engine.Happening) : Engine.Happening :=
  { happening with effects := watch.effects happening.effects }

section States

variable (state : Engine.State)

theorem state_inFlight : (watch.state state).inFlight = state.inFlight := rfl

theorem state_find? (seq : Nat) : (watch.state state).find? seq = state.find? seq := rfl

theorem state_cancel (id : String) :
    (watch.state state).cancel id = (watch.state (state.cancel id).1, (state.cancel id).2) := by
  unfold Engine.State.cancel
  rw [state_inFlight]
  cases state.inFlight.get? id <;> rfl

theorem state_start (request : Request) :
    (watch.state state).start request =
      (watch.state (state.start request).1, (state.start request).2) := by
  unfold Engine.State.start
  dsimp only
  rw [watch.state_cancel]
  rfl

theorem state_release (live : LiveRequest) :
    (watch.state state).release live = watch.state (state.release live) := by
  have finished := watch.recorder_perform state.recorder
    (.finishRequest live.request.correlationId)
  unfold Engine.State.release Watch.state
  dsimp only
  exact congrArg (fun recorder => ({ state with
    live := state.live.filter fun other => other.seq ≠ live.seq
    inFlight := if state.inFlight.get? live.request.correlationId = some live.seq
      then state.inFlight.erase live.request.correlationId else state.inFlight
    recorder := recorder } : Engine.State)) finished.symm

theorem state_applyAll (now : Timestamp) (effects : List Effect) :
    ({ watch.state state with
        recorder := (watch.state state).recorder.applyAll now (watch.effects effects) } :
          Engine.State) =
      watch.state { state with recorder := state.recorder.applyAll now effects } := by
  have applied := watch.recorder_applyAll state.recorder now effects
  exact congrArg (fun recorder => ({ state with recorder := recorder } : Engine.State)) applied.symm

end States

end Watch

namespace Engine

def watchedBy (engine : Engine) (watch : Watch) : Engine where
  settings := engine.settings.watchedBy watch
  controller := engine.controller.watchedBy watch

section Steps

variable (engine : Engine) (watch : Watch) (now : Timestamp)

theorem advance_watchedBy (live : LiveRequest) :
    (engine.watchedBy watch).advance now live =
      watch.see ((engine.watchedBy .everything).advance now live) := by
  obtain ⟨seq, request, cancelled, phase⟩ := live
  cases phase with
  | arrived =>
    have answered := engine.controller.answerByLegacy_watchedBy watch now request
    unfold advance
    dsimp only
    change (if engine.controller.enabled = true then _ else _) =
      watch.see (if engine.controller.enabled = true then _ else _)
    split
    · exact Prod.ext rfl (Controller.prepareWarnings_seen watch request).symm
    · exact congrArg (fun step => ((Sum.inl step.1 : Reply ⊕ Phase), step.2)) answered
  | walking stage =>
    have walked := Stage.advance_watchedBy engine.controller.executor watch cancelled now stage
    have went := congrArg (fun step => ((Sum.inr (.walking step.1) : Reply ⊕ Phase), step.2)) walked
    cases stage with
    | between walk => exact went
    | inside walk id run => exact went
    | ended result =>
      have concluded := engine.controller.conclude_watchedBy watch now request result
      exact congrArg (fun step => ((Sum.inl step.1 : Reply ⊕ Phase), step.2)) concluded

theorem stepSeq_watchedBy (state : State) (seq : Nat) :
    (engine.watchedBy watch).stepSeq now (watch.state state) seq =
      let step := (engine.watchedBy .everything).stepSeq now state seq
      (watch.state step.1, watch.happening step.2) := by
  unfold stepSeq
  rw [watch.state_find?]
  cases state.find? seq with
  | none => rfl
  | some live =>
    dsimp only
    rw [engine.advance_watchedBy watch]
    cases (engine.watchedBy .everything).advance now live with
    | mk outcome effects =>
      cases outcome with
      | inr phase => exact Prod.ext (watch.state_applyAll (state.setPhase seq phase) now effects) rfl
      | inl reply =>
        have all : watch.effects effects ++ closing reply =
            watch.effects (effects ++ closing reply) := by
          rw [watch.effects_append, watch.effects_closing]
        dsimp only [Watch.see]
        rw [all]
        refine Prod.ext ?_ rfl
        dsimp only
        rw [watch.state_applyAll, watch.state_release]

theorem handle_watchedBy (state : State) (event : Event) :
    (engine.watchedBy watch).handle now (watch.state state) event =
      let step := (engine.watchedBy .everything).handle now state event
      (watch.state step.1, watch.happening step.2) := by
  cases event with
  | start request =>
    have started := watch.state_start state request
    have noInputs : watch.effects (state.start request).2 = (state.start request).2 := by
      change watch.effects (if _ then _ else _) = (if _ then _ else _)
      split <;> rfl
    simp only [handle, started]
    exact Prod.ext rfl (congrArg (fun effects => ({ effects := effects } : Happening)) noInputs.symm)
  | step seq => exact engine.stepSeq_watchedBy watch now state seq
  | drop seq =>
    simp only [handle, watch.state_find?]
    cases state.find? seq with
    | none => rfl
    | some live => exact Prod.ext (watch.state_release state live) rfl
  | cancel id =>
    have cancelled := watch.state_cancel state id
    simp only [handle, cancelled]
    rfl
  | shutdown => rfl
  | purge cutoff =>
    have purged := watch.recorder_perform state.recorder (.purgeBefore cutoff)
    refine Prod.ext ?_ rfl
    exact congrArg (fun recorder => ({ state with recorder := recorder } : State)) purged.symm

end Steps

section Runs

variable (engine : Engine) (watch : Watch)

/-- Where a run leads is what the watch sees of where it leads when everything is watched. -/
theorem run_watchedBy (state : State) (events : List (Timestamp × Event)) :
    (engine.watchedBy watch).run (watch.state state) events =
      watch.state ((engine.watchedBy .everything).run state events) := by
  induction events generalizing state with
  | nil => rfl
  | cons event later ih => rw [run_cons, run_cons, handle_watchedBy, ih]

theorem happenings_watchedBy (state : State) (events : List (Timestamp × Event)) :
    (engine.watchedBy watch).happenings (watch.state state) events =
      ((engine.watchedBy .everything).happenings state events).map watch.happening := by
  induction events generalizing state with
  | nil => rfl
  | cons event later ih =>
    rw [happenings, happenings, handle_watchedBy, List.map_cons]
    exact congrArg _ (ih _)

end Runs

end Engine

end Switchyard
