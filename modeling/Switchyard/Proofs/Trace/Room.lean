import Mathlib.Data.List.Dedup
import Mathlib.Data.List.Perm.Subperm
import Switchyard.Proofs.Execution.Untimed
import Switchyard.Proofs.Trace.Calls
set_option autoImplicit false

/-! A recorder that has room for the traces of all ids and is never purged. Nothing is removed from
it, so what it holds does not depend on when it is called. Main statement: `Recorder.run_untimed`,
taking out the times commutes with its calls. -/
namespace Switchyard

def TraceLog.untimed (log : TraceLog) : TraceLog :=
  ⟨default, log.records.map TraceRecord.untimed⟩

namespace Recorder

def untimed (recorder : Recorder) : Recorder :=
  { recorder with
    logs := recorder.logs.map fun _ log => log.untimed
    activations := recorder.activations.map fun _ list => list.map NodeActivation.untimed }

namespace Call

def untimed : Call → Call
  | .record _ made => .record default made.untimed
  | .recordActivation nodeId activation => .recordActivation nodeId activation.untimed
  | other => other

/-- The call makes no trace for any other id, and it is no purge. -/
def Fits (ids : List String) : Call → Prop
  | .record _ made => made.correlationId ∈ ids
  | .purgeBefore _ => False
  | .beginRequest _ | .recordActivation .. | .recordDecision .. | .finishRequest _ => True

end Call

/-- There are traces of these ids only, and room for a trace of each. -/
structure Roomy (ids : List String) (recorder : Recorder) : Prop where
  within : ∀ id, recorder.logs.contains id = true → id ∈ ids
  room : ids.dedup.length ≤ recorder.maxRequests

section Views

variable (recorder : Recorder)

@[simp] theorem traces_untimed (id : String) :
    recorder.untimed.traces id = (recorder.traces id).map TraceRecord.untimed := by
  change (((recorder.logs.map fun _ log => log.untimed).get? id).map (·.records)).getD [] = _
  rw [Dict.get?_map, traces]
  cases recorder.logs.get? id <;> rfl

@[simp] theorem activationsOf_untimed (nodeId : String) :
    recorder.untimed.activationsOf nodeId =
      (recorder.activationsOf nodeId).map NodeActivation.untimed := by
  change ((recorder.activations.map fun _ list =>
    list.map NodeActivation.untimed).get? nodeId).getD [] = _
  rw [Dict.get?_map, activationsOf]
  cases recorder.activations.get? nodeId <;> rfl

end Views

namespace Roomy

variable {ids : List String} {recorder : Recorder}

theorem traceCount_le (roomy : recorder.Roomy ids) :
    recorder.traceCount ≤ recorder.maxRequests := by
  have inside : recorder.logs.keys ⊆ ids.dedup := by
    intro id known
    have present := (recorder.logs.mem_keys_iff id).mp known
    exact List.mem_dedup.mpr (roomy.within id present)
  have fewer := (List.subperm_of_subset recorder.logs.keys_nodup inside).length_le
  rw [Dict.length_keys] at fewer
  exact Nat.le_trans fewer roomy.room

theorem enforceCap_eq (roomy : recorder.Roomy ids) (keep : String) :
    recorder.enforceCap keep = recorder := by
  have none : recorder.traceCount - recorder.maxRequests = 0 :=
    Nat.sub_eq_zero_of_le roomy.traceCount_le
  rw [enforceCap, none, evict]

theorem noted (roomy : recorder.Roomy ids) (now : Timestamp) {record : TraceRecord}
    (known : record.correlationId ∈ ids) : (recorder.noted now record).Roomy ids := by
  refine ⟨fun id present => ?_, roomy.room⟩
  by_cases same : record.correlationId = id
  · rw [← same]
    exact known
  · apply roomy.within
    change ((recorder.logs.insert _ _).get? id).isSome = true at present
    rw [Dict.get?_insert, if_neg same] at present
    exact present

theorem record_eq (roomy : recorder.Roomy ids) (now : Timestamp) {record : TraceRecord}
    (known : record.correlationId ∈ ids) :
    recorder.record now record = recorder.noted now record := by
  rw [Recorder.record_eq, (roomy.noted now known).enforceCap_eq, ite_self]

theorem finishRequest_eq (roomy : recorder.Roomy ids) (id : String) :
    recorder.finishRequest id = recorder.release id := by
  have released : (recorder.release id).Roomy ids := ⟨roomy.within, roomy.room⟩
  exact released.enforceCap_eq id

theorem perform (roomy : recorder.Roomy ids) {call : Call} (fits : call.Fits ids) :
    (recorder.perform call).Roomy ids := by
  cases call with
  | record now made =>
    rw [Recorder.perform, roomy.record_eq now fits]
    exact roomy.noted now fits
  | finishRequest id =>
    rw [Recorder.perform, roomy.finishRequest_eq]
    exact ⟨roomy.within, roomy.room⟩
  | purgeBefore cutoff => exact fits.elim
  | beginRequest | recordActivation | recordDecision => exact ⟨roomy.within, roomy.room⟩

theorem untimed (roomy : recorder.Roomy ids) : recorder.untimed.Roomy ids := by
  refine ⟨fun id present => roomy.within id ?_, roomy.room⟩
  rw [← present]
  exact (Dict.contains_map recorder.logs TraceLog.untimed id).symm

end Roomy

/-! What a call leaves does not depend on its time. -/

section Untimed

variable {ids : List String} {recorder : Recorder}

theorem afterLast_untimed (trace : List TraceRecord) (record : TraceRecord) :
    afterLast (trace.map TraceRecord.untimed) record.untimed = record.untimed := by
  unfold afterLast
  rw [List.getLast?_map]
  cases trace.getLast? with
  | none => rfl
  | some last => exact if_neg (Int.lt_irrefl _)

theorem appended_untimed (trace : List TraceRecord) (record : TraceRecord) :
    (appended trace record).map TraceRecord.untimed =
      appended (trace.map TraceRecord.untimed) record.untimed := by
  obtain ⟨time, stored⟩ := afterLast_eq trace record
  rw [appended, appended, afterLast_untimed, List.map_append, stored]
  rfl

theorem noted_untimed (recorder : Recorder) (now : Timestamp) (record : TraceRecord) :
    (recorder.noted now record).untimed = recorder.untimed.noted default record.untimed := by
  have log : (TraceLog.mk now (appended (recorder.traces record.correlationId) record)).untimed =
      ⟨default, appended (recorder.untimed.traces record.correlationId) record.untimed⟩ := by
    rw [traces_untimed, ← appended_untimed]
    rfl
  have inserted := Dict.map_insert recorder.logs TraceLog.untimed record.correlationId
    ⟨now, appended (recorder.traces record.correlationId) record⟩
  rw [log] at inserted
  exact congrArg (fun logs => ({ recorder.untimed with logs := logs } : Recorder)) inserted

theorem recordActivation_untimed (recorder : Recorder) (nodeId : String)
    (activation : NodeActivation) :
    (recorder.recordActivation nodeId activation).untimed =
      recorder.untimed.recordActivation nodeId activation.untimed := by
  have log : ((if maxActivations ≤ (recorder.activationsOf nodeId).length
        then (recorder.activationsOf nodeId).drop 1 else recorder.activationsOf nodeId) ++
        [activation]).map NodeActivation.untimed =
      (if maxActivations ≤ (recorder.untimed.activationsOf nodeId).length
        then (recorder.untimed.activationsOf nodeId).drop 1
        else recorder.untimed.activationsOf nodeId) ++ [activation.untimed] := by
    rw [activationsOf_untimed, List.length_map, List.map_append]
    split
    · rw [List.map_drop]
      rfl
    · rfl
  have inserted := Dict.map_insert recorder.activations (List.map NodeActivation.untimed) nodeId
    ((if maxActivations ≤ (recorder.activationsOf nodeId).length
      then (recorder.activationsOf nodeId).drop 1 else recorder.activationsOf nodeId) ++
      [activation])
  rw [log] at inserted
  exact congrArg (fun activations =>
    ({ recorder.untimed with activations := activations } : Recorder)) inserted

theorem Roomy.perform_untimed (roomy : recorder.Roomy ids) {call : Call} (fits : call.Fits ids) :
    (recorder.perform call).untimed = recorder.untimed.perform call.untimed := by
  cases call with
  | record now made =>
    change (recorder.record now made).untimed = recorder.untimed.record default made.untimed
    have known : made.untimed.correlationId ∈ ids := fits
    rw [roomy.record_eq now fits, roomy.untimed.record_eq default known, noted_untimed]
  | finishRequest id =>
    change (recorder.finishRequest id).untimed = recorder.untimed.finishRequest id
    rw [roomy.finishRequest_eq, roomy.untimed.finishRequest_eq]
    rfl
  | recordActivation nodeId activation => exact recordActivation_untimed recorder nodeId activation
  | purgeBefore cutoff => exact fits.elim
  | beginRequest | recordDecision => rfl

/-! Activations are never removed, whether there is room or not. -/

theorem perform_activations (recorder : Recorder) (call : Call) :
    (recorder.perform call).activations =
      match call with
      | .recordActivation nodeId activation =>
        (recorder.recordActivation nodeId activation).activations
      | _ => recorder.activations := by
  cases call with
  | record now made =>
    change (recorder.record now made).activations = recorder.activations
    rw [record_eq]
    split
    · rfl
    · exact enforceCap_keeps activations (fun _ _ => rfl) _ _
  | finishRequest id => exact enforceCap_keeps activations (fun _ _ => rfl) (recorder.release id) id
  | _ => rfl

theorem recordActivation_activations {one two : Recorder}
    (same : one.activations = two.activations) (nodeId : String) (activation : NodeActivation) :
    (one.recordActivation nodeId activation).activations =
      (two.recordActivation nodeId activation).activations := by
  have logs : one.activationsOf nodeId = two.activationsOf nodeId := by
    rw [activationsOf, activationsOf, same]
  simp only [recordActivation, logs, same]

theorem run_activations_untimed {one two : Recorder}
    (begins : one.untimed.activations = two.activations) (calls : List Call) :
    (one.run calls).untimed.activations = (two.run (calls.map Call.untimed)).activations := by
  induction calls generalizing one two with
  | nil => exact begins
  | cons call later ih =>
    have stepped : (one.perform call).untimed.activations =
        (two.perform call.untimed).activations := by
      rw [perform_activations two]
      cases call with
      | recordActivation nodeId activation =>
        change (one.recordActivation nodeId activation).untimed.activations = _
        rw [recordActivation_untimed]
        exact recordActivation_activations begins nodeId activation.untimed
      | record now made =>
        rw [← begins]
        exact congrArg (Dict.map · fun _ list => list.map NodeActivation.untimed)
          (perform_activations one (.record now made))
      | finishRequest id =>
        rw [← begins]
        exact congrArg (Dict.map · fun _ list => list.map NodeActivation.untimed)
          (perform_activations one (.finishRequest id))
      | beginRequest | recordDecision | purgeBefore => exact begins
    exact ih stepped

/-- Taking out the times commutes with calls for which there is room. -/
theorem Roomy.run_untimed (roomy : recorder.Roomy ids) {calls : List Call}
    (fit : ∀ call ∈ calls, call.Fits ids) :
    (recorder.run calls).untimed = recorder.untimed.run (calls.map Call.untimed) := by
  induction calls generalizing recorder with
  | nil => rfl
  | cons call later ih =>
    obtain ⟨fits, rest⟩ := List.forall_mem_cons.mp fit
    rw [run_cons, ih (roomy.perform fits) rest, roomy.perform_untimed fits, List.map_cons, run_cons]

end Untimed

end Recorder

end Switchyard
