import Mathlib.Data.List.Induction
import Switchyard.Proofs.Trace.Purge
set_option autoImplicit false

/-! A recorder that is called in any way, whether or not its calls belong together: which requests
it takes to be running, and what a call does to the trace of one id. -/
namespace Switchyard.Recorder

inductive Call where
  | beginRequest (id : String)
  | record (now : Timestamp) (record : TraceRecord)
  | recordActivation (nodeId : String) (activation : NodeActivation)
  | recordDecision (id : String) (decision : CapabilityDecision)
  | finishRequest (id : String)
  | purgeBefore (cutoff : Timestamp)

namespace Call

def recordFor? (id : String) : Call → Option TraceRecord
  | .record _ made => if made.correlationId = id then some made else none
  | _ => none

def begins (id : String) : Call → Bool
  | .beginRequest begun => begun = id
  | _ => false

def finishes (id : String) : Call → Bool
  | .finishRequest finished => finished = id
  | _ => false

end Call

def perform (recorder : Recorder) : Call → Recorder
  | .beginRequest id => recorder.beginRequest id
  | .record now record => recorder.record now record
  | .recordActivation nodeId activation => recorder.recordActivation nodeId activation
  | .recordDecision id decision => recorder.recordDecision id decision
  | .finishRequest id => recorder.finishRequest id
  | .purgeBefore cutoff => (recorder.purgeBefore cutoff).1

def run (recorder : Recorder) (calls : List Call) : Recorder := calls.foldl perform recorder

@[simp] theorem run_nil (recorder : Recorder) : recorder.run [] = recorder := rfl

@[simp] theorem run_cons (recorder : Recorder) (call : Call) (later : List Call) :
    recorder.run (call :: later) = (recorder.perform call).run later := rfl

theorem run_append (recorder : Recorder) (first later : List Call) :
    recorder.run (first ++ later) = (recorder.run first).run later :=
  List.foldl_append

theorem run_concat (recorder : Recorder) (calls : List Call) (last : Call) :
    recorder.run (calls ++ [last]) = (recorder.run calls).perform last :=
  recorder.run_append calls [last]

/-- What one call preserves, every run of calls preserves. -/
theorem run_preserves {invariant : Recorder → Prop}
    (preserved : ∀ recorder call, invariant recorder → invariant (recorder.perform call))
    {recorder : Recorder} (holds : invariant recorder) (calls : List Call) :
    invariant (recorder.run calls) := by
  induction calls generalizing recorder with
  | nil => exact holds
  | cons call later ih => exact ih (preserved recorder call holds)

/-- Each of some calls, made in turn, finds the recorder in a state that it fits. -/
def Always (fits : Recorder → Call → Prop) : Recorder → List Call → Prop
  | _, [] => True
  | recorder, call :: later => fits recorder call ∧ Always fits (recorder.perform call) later

theorem Always.mono {fits weaker : Recorder → Call → Prop}
    (implies : ∀ recorder call, fits recorder call → weaker recorder call) {recorder : Recorder}
    {calls : List Call} (always : Always fits recorder calls) : Always weaker recorder calls := by
  induction calls generalizing recorder with
  | nil => trivial
  | cons call later ih => exact ⟨implies recorder call always.1, ih always.2⟩

theorem Always.concat {fits : Recorder → Call → Prop} {recorder : Recorder} {calls : List Call}
    {last : Call} (always : Always fits recorder calls)
    (fitsLast : fits (recorder.run calls) last) :
    Always fits recorder (calls ++ [last]) := by
  induction calls generalizing recorder with
  | nil => exact ⟨fitsLast, trivial⟩
  | cons call later ih => exact ⟨always.1, ih always.2 fitsLast⟩

/-! Which requests are running. -/

theorem perform_running (recorder : Recorder) (call : Call) (id : String) :
    (recorder.perform call).running.get? id =
      if call.begins id then some (recorder.runningCount id + 1)
      else if call.finishes id then
        if recorder.runningCount id - 1 = 0 then none else some (recorder.runningCount id - 1)
      else recorder.running.get? id := by
  cases call with
  | beginRequest begun =>
    simp only [perform, running_beginRequest, Call.begins, Call.finishes, decide_eq_true_eq,
      Bool.false_eq_true, if_false]
    by_cases same : begun = id <;> simp [same]
  | finishRequest finished =>
    simp only [perform, running_finishRequest, Call.begins, Call.finishes, decide_eq_true_eq,
      Bool.false_eq_true, if_false]
    by_cases same : finished = id <;> simp [same]
  | record now record => exact congrArg (·.get? id) (record_running recorder now record)
  | recordActivation | recordDecision | purgeBefore => rfl

theorem runningCount_perform (recorder : Recorder) (call : Call) (id : String) :
    (recorder.perform call).runningCount id =
      if call.begins id then recorder.runningCount id + 1
      else if call.finishes id then recorder.runningCount id - 1
      else recorder.runningCount id := by
  rw [runningCount, perform_running]
  split
  · rfl
  · split
    · split
      · rename_i none
        rw [none]
        rfl
      · rfl
    · rfl

/-- No entry stands for no request. -/
def Counted (recorder : Recorder) : Prop :=
  ∀ id count, recorder.running.get? id = some count → 0 < count

theorem Counted.perform {recorder : Recorder} (counted : recorder.Counted) (call : Call) :
    (recorder.perform call).Counted := by
  intro id count found
  rw [perform_running] at found
  split at found
  · rw [← Option.some.inj found]
    exact Nat.succ_pos _
  · split at found
    · split at found
      · cases found
      · rename_i someLeft
        rw [← Option.some.inj found]
        exact Nat.pos_of_ne_zero someLeft
    · exact counted id count found

theorem Counted.isRunning_iff {recorder : Recorder} (counted : recorder.Counted) (id : String) :
    recorder.isRunning id = true ↔ 0 < recorder.runningCount id := by
  rw [Recorder.isRunning_iff, runningCount]
  cases found : recorder.running.get? id with
  | none => simp
  | some count => simpa using counted id count found

theorem begins_and_finishes (call : Call) (id : String) :
    ¬ (call.begins id = true ∧ call.finishes id = true) := by
  cases call <;> simp [Call.begins, Call.finishes]

/-- More than some number of requests are running exactly if in the calls since some moment so many
more were begun than finished. -/
theorem lt_runningCount_run_iff {recorder : Recorder} (idle : recorder.running = Dict.empty)
    (calls : List Call) (id : String) (number : Nat) :
    number < (recorder.run calls).runningCount id ↔
      ∃ since, since <:+ calls ∧
        since.countP (Call.finishes id) + number < since.countP (Call.begins id) := by
  induction calls using List.reverseRecOn generalizing number with
  | nil => simp [runningCount, idle]
  | append_singleton calls last ih =>
    -- The last call is among the calls since any moment, but for the moment after it.
    have stretch : (∃ since, since <:+ calls ++ [last] ∧
        since.countP (Call.finishes id) + number < since.countP (Call.begins id)) ↔
        ∃ since, since <:+ calls ∧
          since.countP (Call.finishes id) + (if last.finishes id then 1 else 0) + number <
            since.countP (Call.begins id) + if last.begins id then 1 else 0 := by
      constructor
      · rintro ⟨since, inside, more⟩
        rcases List.suffix_concat_iff.mp inside with rfl | ⟨before, rfl, earlier⟩
        · simp at more
        · refine ⟨before, earlier, ?_⟩
          simpa only [List.countP_append, List.countP_singleton] using more
      · rintro ⟨before, earlier, more⟩
        refine ⟨before ++ [last], List.suffix_concat_iff.mpr (Or.inr ⟨before, rfl, earlier⟩), ?_⟩
        simpa only [List.countP_append, List.countP_singleton] using more
    have exclusive := begins_and_finishes last id
    rw [run_concat, runningCount_perform, stretch]
    cases begins : last.begins id with
    | true =>
      have keeps : last.finishes id = false := by simpa [begins] using exclusive
      simp only [keeps, if_true, Bool.false_eq_true, if_false, Nat.add_zero]
      cases number with
      | zero => exact ⟨fun _ => ⟨[], List.nil_suffix, by simp⟩, fun _ => Nat.succ_pos _⟩
      | succ number =>
        rw [Nat.succ_lt_succ_iff, ih]
        simp only [← Nat.add_assoc, Nat.succ_lt_succ_iff]
    | false =>
      cases finishes : last.finishes id with
      | true =>
        have fewer : number < (recorder.run calls).runningCount id - 1 ↔
            number + 1 < (recorder.run calls).runningCount id := by omega
        simp only [if_true, if_false, Bool.false_eq_true, Nat.add_zero, fewer, ih, Nat.add_assoc,
          Nat.add_comm 1]
      | false => simpa using ih number

theorem new_counted (mode : TraceMode) (retentionSecs : UInt64) (maxRequests : Nat) :
    (new mode retentionSecs maxRequests).Counted := fun _ _ found => by cases found

theorem isRunning_run_iff (mode : TraceMode) (retentionSecs : UInt64) (maxRequests : Nat)
    (calls : List Call) (id : String) :
    ((new mode retentionSecs maxRequests).run calls).isRunning id = true ↔
      ∃ since, since <:+ calls ∧
        since.countP (Call.finishes id) < since.countP (Call.begins id) := by
  have counted : ((new mode retentionSecs maxRequests).run calls).Counted :=
    run_preserves (fun _ call counted => counted.perform call)
      (new_counted mode retentionSecs maxRequests) calls
  rw [counted.isRunning_iff, lt_runningCount_run_iff rfl]
  rfl

/-! What a call does to the trace of one id. -/

/-- A call made for a record of the id appends it. Any other call leaves the trace as it is or
removes it, and then no request of the id is running. -/
theorem perform_log_cases (recorder : Recorder) (call : Call) (id : String) :
    (∃ record log, call.recordFor? id = some record ∧
        (recorder.perform call).logs.get? id = some log ∧
        log.records = appended (recorder.traces id) record) ∨
      (call.recordFor? id = none ∧
        (recorder.perform call).logs.get? id = recorder.logs.get? id) ∨
      (call.recordFor? id = none ∧ (recorder.perform call).logs.get? id = none ∧
        recorder.isRunning id = false) := by
  cases call with
  | record now made =>
    by_cases same : made.correlationId = id
    · subst same
      have after : (recorder.record now made).logs.get? made.correlationId =
          some ⟨now, appended (recorder.traces made.correlationId) made⟩ :=
        (congrArg Prod.fst (record_held_self recorder now made)).trans
          (Dict.get?_insert_self _ _ _)
      exact Or.inl ⟨made, _, if_pos rfl, after, rfl⟩
    · have noted : (recorder.noted now made).logs.get? id = recorder.logs.get? id :=
        congrArg Prod.fst (noted_held_of_ne recorder now made same)
      refine Or.inr ?_
      rw [perform, record_eq, ← noted]
      split
      · exact Or.inl ⟨if_neg same, rfl⟩
      · rcases enforceCap_held_cases (recorder.noted now made) made.correlationId id with
          left | ⟨gone, -, idle⟩
        · exact Or.inl ⟨if_neg same, congrArg Prod.fst left⟩
        · exact Or.inr ⟨if_neg same, congrArg Prod.fst gone, idle⟩
  | finishRequest finished =>
    refine Or.inr ?_
    rcases enforceCap_held_cases (recorder.release finished) finished id with
      left | ⟨gone, other, idle⟩
    · exact Or.inl ⟨rfl, congrArg Prod.fst left⟩
    · rw [isRunning_release_of_ne recorder other.symm] at idle
      exact Or.inr ⟨rfl, congrArg Prod.fst gone, idle⟩
  | purgeBefore cutoff =>
    refine Or.inr ?_
    have after := (recorder.purgeBefore_purged cutoff).logs id
    cases stale : recorder.isStale cutoff.millis id with
    | false =>
      rw [stale] at after
      exact Or.inl ⟨rfl, after⟩
    | true =>
      rw [stale] at after
      exact Or.inr ⟨rfl, after, idle_of_isStale stale⟩
  | beginRequest | recordActivation | recordDecision => exact Or.inr (Or.inl ⟨rfl, rfl⟩)

/-- The call takes away the trace of an id. -/
def Removes (recorder : Recorder) (call : Call) (id : String) : Prop :=
  recorder.logs.contains id = true ∧ (recorder.perform call).logs.contains id = false

theorem Removes.idle {recorder : Recorder} {call : Call} {id : String}
    (removes : recorder.Removes call id) : recorder.isRunning id = false := by
  obtain ⟨before, after⟩ := removes
  rw [Dict.contains] at before after
  rcases recorder.perform_log_cases call id with
    ⟨record, log, -, found, -⟩ | ⟨-, same⟩ | ⟨-, -, idle⟩
  · rw [found] at after
    cases after
  · rw [same, before] at after
    cases after
  · exact idle

end Switchyard.Recorder
