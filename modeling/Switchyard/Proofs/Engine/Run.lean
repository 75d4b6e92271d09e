import Switchyard.Engine
import Switchyard.Proofs.Trace.Purge
set_option autoImplicit false

/-! Runs of an engine: any events in any order, each at a time of its own. What one event preserves,
every run preserves. -/
namespace Switchyard.Engine

/-- The state after some events, each with the time it happens at. -/
def run (engine : Engine) (state : State) (events : List (Timestamp × Event)) : State :=
  events.foldl (fun state event => (engine.handle event.1 state event.2).1) state

@[simp] theorem run_nil (engine : Engine) (state : State) : engine.run state [] = state := rfl

@[simp] theorem run_cons (engine : Engine) (state : State) (event : Timestamp × Event)
    (later : List (Timestamp × Event)) :
    engine.run state (event :: later) =
      engine.run (engine.handle event.1 state event.2).1 later := rfl

theorem run_append (engine : Engine) (state : State) (first later : List (Timestamp × Event)) :
    engine.run state (first ++ later) = engine.run (engine.run state first) later :=
  List.foldl_append

/-- What one event preserves, every run preserves. -/
theorem run_preserves (engine : Engine) {invariant : State → Prop}
    (preserved : ∀ now state event, invariant state → invariant (engine.handle now state event).1)
    {state : State} (holds : invariant state) (events : List (Timestamp × Event)) :
    invariant (engine.run state events) := by
  induction events generalizing state with
  | nil => exact holds
  | cons event later ih => exact ih (preserved event.1 state event.2 holds)

theorem State.mem_of_find? {state : State} {seq : Nat} {live : LiveRequest}
    (found : state.find? seq = some live) : live ∈ state.live ∧ live.seq = seq := by
  refine ⟨List.mem_of_find?_eq_some found, ?_⟩
  simpa using List.find?_some found

theorem closing_quiet (reply : Reply) : ∀ effect ∈ closing reply, effect.Quiet := by
  intro effect inside
  cases reply with
  | ok result => cases inside
  | error error =>
    rw [List.mem_singleton.mp inside]
    trivial

theorem stepSeq_cases (engine : Engine) (now : Timestamp) (state : State) (seq : Nat) :
    (state.find? seq = none ∧ engine.stepSeq now state seq = (state, {})) ∨
    (∃ live phase effects, state.find? seq = some live ∧
      engine.advance now live = (.inr phase, effects) ∧
      engine.stepSeq now state seq =
        ({ state.setPhase seq phase with recorder := state.recorder.applyAll now effects },
          { effects := effects })) ∨
    (∃ live reply effects, state.find? seq = some live ∧
      engine.advance now live = (.inl reply, effects) ∧
      engine.stepSeq now state seq =
        (({ state with recorder := state.recorder.applyAll now (effects ++ closing reply) } :
            State).release live,
          { effects := effects ++ closing reply, ended := some (seq, reply) })) := by
  unfold stepSeq
  cases found : state.find? seq with
  | none => exact Or.inl ⟨rfl, rfl⟩
  | some live =>
    cases advanced : engine.advance now live with
    | mk outcome effects =>
      cases outcome with
      | inr phase => exact Or.inr (Or.inl ⟨live, phase, effects, rfl, advanced, by simp [advanced]⟩)
      | inl reply => exact Or.inr (Or.inr ⟨live, reply, effects, rfl, advanced, by simp [advanced]⟩)

end Switchyard.Engine
