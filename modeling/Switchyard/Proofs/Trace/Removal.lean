import Switchyard.Proofs.Trace.Calls
set_option autoImplicit false

/-! A trace and its decision go together. Main statement: `Recorder.run_held_cases`, calls that
record and decide nothing for an id leave what is held under it as it is, or take all of it away. -/
namespace Switchyard.Recorder

/-- The call leaves a record or a decision under the id. -/
def Call.Concerns (id : String) : Call → Prop
  | .record _ made => made.correlationId = id
  | .recordDecision decided _ => decided = id
  | .beginRequest _ | .recordActivation .. | .finishRequest _ | .purgeBefore _ => False

variable {recorder : Recorder} {id : String}

theorem perform_held_cases {call : Call} (other : ¬ call.Concerns id) :
    (recorder.perform call).held id = recorder.held id ∨
      (recorder.perform call).held id = (none, none) := by
  cases call with
  | record now made =>
    have noted : (recorder.noted now made).held id = recorder.held id :=
      noted_held_of_ne recorder now made other
    rw [perform, record_eq, ← noted]
    split
    · exact Or.inl rfl
    · exact (enforceCap_held_cases _ _ id).imp_right And.left
  | recordDecision decided decision =>
    have kept : (recorder.decisions.insert decided decision).get? id =
        recorder.decisions.get? id := by
      rw [Dict.get?_insert]
      exact if_neg other
    exact Or.inl (Prod.ext rfl kept)
  | finishRequest finished =>
    exact (enforceCap_held_cases (recorder.release finished) finished id).imp_right And.left
  | purgeBefore cutoff => exact (recorder.purgeBefore_purged cutoff).held_cases id
  | beginRequest | recordActivation => exact Or.inl rfl

/-- Calls that record and decide nothing for an id leave what is held under it as it is, or take all
of it away. -/
theorem run_held_cases {calls : List Call} (others : ∀ call ∈ calls, ¬ call.Concerns id) :
    (recorder.run calls).held id = recorder.held id ∨
      (recorder.run calls).held id = (none, none) := by
  induction calls generalizing recorder with
  | nil => exact Or.inl rfl
  | cons call later ih =>
    obtain ⟨first, rest⟩ := List.forall_mem_cons.mp others
    rw [run_cons]
    rcases @ih (recorder.perform call) rest with same | gone
    · rw [same]
      exact perform_held_cases first
    · exact Or.inr gone

end Switchyard.Recorder
