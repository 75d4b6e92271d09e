import Switchyard.Proofs.Execution.Watch
import Switchyard.Proofs.Trace.Calls
set_option autoImplicit false

/-! The recorder under a watch. Seeing less of every record leaves the order of the logs, their
times and their number as they are, so that the same traces are evicted and purged. Main statement:
`Watch.recorder_run`, seeing a recorder commutes with everything that it can be called for. -/
namespace Switchyard

namespace Watch

variable (watch : Watch)

def log (log : TraceLog) : TraceLog := { log with records := log.records.map watch.record }

def recorder (recorder : Recorder) : Recorder :=
  { recorder with
    logs := recorder.logs.map fun _ held => watch.log held
    mode := watch.mode }

section Views

variable (recorder : Recorder)

@[simp] theorem traces_recorder (id : String) :
    (watch.recorder recorder).traces id = (recorder.traces id).map watch.record := by
  change (((recorder.logs.map fun _ held => watch.log held).get? id).map (·.records)).getD [] = _
  rw [Dict.get?_map, Recorder.traces]
  cases recorder.logs.get? id <;> rfl

theorem traceCount_recorder : (watch.recorder recorder).traceCount = recorder.traceCount :=
  Dict.size_map recorder.logs watch.log

end Views

/-! Eviction chooses by times alone. -/

section Eviction

variable (recorder : Recorder) (keep : String)

theorem foldl_older_map (entries : List (String × TraceLog)) (best : Option (String × TraceLog)) :
    (entries.map fun entry => (entry.1, watch.log entry.2)).foldl Recorder.older
        (best.map fun entry => (entry.1, watch.log entry.2)) =
      (entries.foldl Recorder.older best).map fun entry => (entry.1, watch.log entry.2) := by
  induction entries generalizing best with
  | nil => rfl
  | cons entry rest ih =>
    have chosen : Recorder.older (best.map fun entry => (entry.1, watch.log entry.2))
        (entry.1, watch.log entry.2) =
        (Recorder.older best entry).map fun entry => (entry.1, watch.log entry.2) := by
      cases best with
      | none => rfl
      | some held =>
        simp only [Recorder.older, Option.map_some]
        change (if entry.2.lastAppend.millis < held.2.lastAppend.millis then _ else _) = _
        split <;> rfl
    rw [List.map_cons, List.foldl_cons, List.foldl_cons, chosen]
    exact ih _

theorem oldest?_recorder :
    (watch.recorder recorder).oldest? keep =
      (recorder.oldest? keep).map fun entry => (entry.1, watch.log entry.2) := by
  have removable : (watch.recorder recorder).logs.entries.filter
      ((watch.recorder recorder).isRemovable keep) =
      (recorder.logs.entries.filter (recorder.isRemovable keep)).map
        fun entry => (entry.1, watch.log entry.2) := by
    change (recorder.logs.entries.map fun entry => (entry.1, watch.log entry.2)).filter _ = _
    rw [List.filter_map]
    rfl
  rw [Recorder.oldest?, removable]
  exact watch.foldl_older_map _ none

theorem recorder_removeTrace (id : String) :
    watch.recorder (recorder.removeTrace id) = (watch.recorder recorder).removeTrace id := by
  have erased := Dict.map_erase recorder.logs watch.log id
  change ({ recorder with
      logs := (recorder.logs.erase id).map fun _ held => watch.log held
      decisions := recorder.decisions.erase id
      mode := watch.mode } : Recorder) = _
  rw [erased]
  rfl

theorem recorder_evict (excess : Nat) :
    watch.recorder (Recorder.evict keep excess recorder) =
      Recorder.evict keep excess (watch.recorder recorder) := by
  induction excess generalizing recorder with
  | zero => rfl
  | succ excess ih =>
    rw [Recorder.evict, Recorder.evict, oldest?_recorder]
    cases recorder.oldest? keep with
    | none => rfl
    | some entry =>
      dsimp only [Option.map_some]
      rw [ih, recorder_removeTrace]

theorem recorder_enforceCap :
    watch.recorder (recorder.enforceCap keep) = (watch.recorder recorder).enforceCap keep := by
  rw [Recorder.enforceCap, Recorder.enforceCap, recorder_evict, traceCount_recorder]
  rfl

end Eviction

/-! Everything that reaches a recorder. -/

section Calls

variable (recorder : Recorder) (now : Timestamp)

theorem afterLast_seen (trace : List TraceRecord) (record : TraceRecord) :
    Recorder.afterLast (trace.map watch.record) (watch.record record) =
      watch.record (Recorder.afterLast trace record) := by
  unfold Recorder.afterLast
  rw [List.getLast?_map]
  cases trace.getLast? with
  | none => rfl
  | some last =>
    dsimp only [Option.map_some]
    change (if record.timestamp.rank < last.timestamp.rank then _ else _) = _
    split <;> rfl

theorem recorder_noted (record : TraceRecord) :
    watch.recorder (recorder.noted now record) =
      (watch.recorder recorder).noted now (watch.record record) := by
  have appended : watch.log ⟨now, Recorder.appended (recorder.traces record.correlationId) record⟩ =
      ⟨now, Recorder.appended ((watch.recorder recorder).traces record.correlationId)
        (watch.record record)⟩ := by
    rw [traces_recorder, Recorder.appended, Recorder.appended, afterLast_seen]
    unfold log
    rw [List.map_append]
    rfl
  unfold Recorder.noted
  change ({ recorder with logs := _, mode := watch.mode } : Recorder) = { recorder with
    logs := (recorder.logs.map fun _ held => watch.log held).insert record.correlationId
      ⟨now, Recorder.appended ((watch.recorder recorder).traces record.correlationId)
        (watch.record record)⟩
    mode := watch.mode }
  dsimp only
  rw [Dict.map_insert, appended]

theorem recorder_record (record : TraceRecord) :
    watch.recorder (recorder.record now record) =
      (watch.recorder recorder).record now (watch.record record) := by
  have known : (watch.recorder recorder).logs.contains record.correlationId =
      recorder.logs.contains record.correlationId :=
    Dict.contains_map recorder.logs watch.log record.correlationId
  rw [Recorder.record_eq, Recorder.record_eq]
  change _ = if (watch.recorder recorder).logs.contains record.correlationId = true then _ else
    Recorder.enforceCap _ record.correlationId
  rw [known, ← recorder_noted, ← recorder_enforceCap]
  split <;> rfl

theorem recorder_purgeBefore (cutoff : Timestamp) :
    watch.recorder (recorder.purgeBefore cutoff).1 =
      ((watch.recorder recorder).purgeBefore cutoff).1 := by
  have kept : ((recorder.logs.filter (recorder.outlives cutoff)).map fun _ held => watch.log held) =
      (watch.recorder recorder).logs.filter ((watch.recorder recorder).outlives cutoff) :=
    Dict.map_filter recorder.logs watch.log fun _ _ => rfl
  have present : ∀ id, ((watch.recorder recorder).logs.filter
      ((watch.recorder recorder).outlives cutoff)).contains id =
      (recorder.logs.filter (recorder.outlives cutoff)).contains id := by
    intro id
    rw [← kept]
    exact Dict.contains_map _ watch.log id
  unfold Recorder.purgeBefore
  dsimp only
  simp only [present]
  rw [← kept]
  rfl

/-- What a recorder is called for, as it is seen. -/
def call : Recorder.Call → Recorder.Call
  | .record now record => .record now (watch.record record)
  | other => other

/-- Seeing a recorder commutes with everything that it can be called for. -/
theorem recorder_perform (call : Recorder.Call) :
    watch.recorder (recorder.perform call) = (watch.recorder recorder).perform (watch.call call) := by
  cases call with
  | record now record => exact watch.recorder_record recorder now record
  | finishRequest id => exact watch.recorder_enforceCap (recorder.release id) id
  | purgeBefore cutoff => exact watch.recorder_purgeBefore recorder cutoff
  | beginRequest | recordActivation | recordDecision => rfl

theorem recorder_run (calls : List Recorder.Call) :
    watch.recorder (recorder.run calls) = (watch.recorder recorder).run (calls.map watch.call) := by
  induction calls generalizing recorder with
  | nil => rfl
  | cons call later ih => rw [Recorder.run_cons, ih, recorder_perform, List.map_cons,
      Recorder.run_cons]

end Calls

end Watch

end Switchyard
