import Switchyard.Proofs.Trace.Calls
set_option autoImplicit false

/-! A trace is only ever appended to, or removed as a whole. Main statement: whatever a recorder is
called for, the trace of an id holds the records made for it since the trace was removed last. -/
namespace Switchyard

/-- The latest of the times of some records. -/
structure Timestamp.LatestOf (time : Timestamp) (records : List TraceRecord) : Prop where
  attained : ∃ record ∈ records, record.timestamp = time
  bound : ∀ record ∈ records, record.timestamp.rank ≤ time.rank

namespace Recorder

/-- The trace holds the records that were made, in their order. Only their times may differ: each
has the latest of its own time and those before it. -/
structure IsTraceOf (made log : List TraceRecord) : Prop where
  length_eq : log.length = made.length
  kept : ∀ (index : Nat) (record : TraceRecord), made[index]? = some record →
    ∃ time, log[index]? = some { record with timestamp := time } ∧
      time.LatestOf (made.take (index + 1))

theorem IsTraceOf.nil : IsTraceOf [] [] := ⟨rfl, fun index record found => by simp at found⟩

section IsTraceOf

variable {made log : List TraceRecord}

theorem IsTraceOf.latest_last (isTrace : IsTraceOf made log) {last : TraceRecord}
    (isLast : log.getLast? = some last) : last.timestamp.LatestOf made := by
  rw [List.getLast?_eq_getElem?, isTrace.length_eq] at isLast
  have inside : made.length - 1 < made.length := by
    have inTrace := (List.getElem?_eq_some_iff.mp isLast).1
    rw [isTrace.length_eq] at inTrace
    exact inTrace
  have whole : made.length - 1 + 1 = made.length := by omega
  obtain ⟨time, found, latest⟩ := isTrace.kept _ _ (List.getElem?_eq_getElem inside)
  rw [found] at isLast
  rw [← Option.some.inj isLast]
  rw [whole, List.take_length] at latest
  exact latest

theorem IsTraceOf.latest_afterLast (isTrace : IsTraceOf made log) (record : TraceRecord) :
    ∃ time, afterLast log record = { record with timestamp := time } ∧
      time.LatestOf (made ++ [record]) := by
  unfold afterLast
  cases isLast : log.getLast? with
  | none =>
    have noTrace : log = [] := List.getLast?_eq_none_iff.mp isLast
    have nothing : made = [] := by
      rw [← List.length_eq_zero_iff, ← isTrace.length_eq, noTrace]
      rfl
    refine ⟨record.timestamp, rfl, ?_⟩
    rw [nothing, List.nil_append]
    exact ⟨⟨record, List.mem_singleton_self record, rfl⟩,
      List.forall_mem_singleton.mpr (Int.le_refl _)⟩
  | some last =>
    obtain ⟨⟨earlier, inside, same⟩, bound⟩ := isTrace.latest_last isLast
    dsimp only
    split
    · rename_i before
      refine ⟨last.timestamp, rfl, ⟨earlier, List.mem_append_left _ inside, same⟩, ?_⟩
      exact List.forall_mem_append.mpr ⟨bound, List.forall_mem_singleton.mpr (Int.le_of_lt before)⟩
    · rename_i notBefore
      have after : last.timestamp.rank ≤ record.timestamp.rank := Int.not_lt.mp notBefore
      refine ⟨record.timestamp, rfl, ⟨record, ?_, rfl⟩, ?_⟩
      · exact List.mem_append_right _ (List.mem_singleton_self record)
      · refine List.forall_mem_append.mpr ⟨fun other inside => ?_, ?_⟩
        · exact Int.le_trans (bound other inside) after
        · exact List.forall_mem_singleton.mpr (Int.le_refl _)

theorem IsTraceOf.concat (isTrace : IsTraceOf made log) (record : TraceRecord) :
    IsTraceOf (made ++ [record]) (appended log record) := by
  refine ⟨by simp [appended, isTrace.length_eq], fun index other found => ?_⟩
  by_cases earlier : index < made.length
  · rw [List.getElem?_append_left earlier] at found
    have inTrace : index < log.length := by rw [isTrace.length_eq]; exact earlier
    rw [appended, List.getElem?_append_left inTrace, List.take_append_of_le_length earlier]
    exact isTrace.kept index other found
  · have atEnd : index = made.length := by
      have bound := (List.getElem?_eq_some_iff.mp found).1
      rw [List.length_append, List.length_singleton] at bound
      omega
    subst atEnd
    rw [List.getElem?_concat_length] at found
    obtain ⟨time, stored, latest⟩ := isTrace.latest_afterLast record
    refine ⟨time, ?_, ?_⟩
    · rw [appended, ← isTrace.length_eq, List.getElem?_concat_length, stored,
        Option.some.inj found]
    · rw [List.take_of_length_le (by simp)]
      exact latest

theorem IsTraceOf.foldl (isTrace : IsTraceOf made log) (more : List TraceRecord) :
    IsTraceOf (made ++ more) (more.foldl appended log) := by
  induction more generalizing made log with
  | nil => simpa using isTrace
  | cons record rest ih => simpa using ih (isTrace.concat record)

theorem IsTraceOf.made_of_mem (isTrace : IsTraceOf made log) {record : TraceRecord}
    (inside : record ∈ log) : ∃ first ∈ made, ∃ time, record = { first with timestamp := time } := by
  obtain ⟨index, bound, here⟩ := List.mem_iff_getElem.mp inside
  have inMade : index < made.length := by
    rw [← isTrace.length_eq]
    exact bound
  obtain ⟨time, found, -⟩ := isTrace.kept index _ (List.getElem?_eq_getElem inMade)
  have same := (List.getElem?_eq_some_iff.mp found).2
  exact ⟨made[index], List.getElem_mem inMade, time, here.symm.trans same⟩

theorem IsTraceOf.mem_of_made (isTrace : IsTraceOf made log) {record : TraceRecord}
    (inside : record ∈ made) : ∃ time, { record with timestamp := time } ∈ log := by
  obtain ⟨index, here⟩ := List.mem_iff_getElem?.mp inside
  obtain ⟨time, found, -⟩ := isTrace.kept index record here
  exact ⟨time, List.mem_of_getElem? found⟩

theorem IsTraceOf.sorted (isTrace : IsTraceOf made log) :
    log.Pairwise fun first second => first.timestamp.rank ≤ second.timestamp.rank := by
  rw [List.pairwise_iff_getElem]
  intro early late earlyInside lateInside before
  have ofTrace : ∀ {index : Nat} (inside : index < log.length),
      (log[index]).timestamp.LatestOf (made.take (index + 1)) := by
    intro index inside
    have inMade : index < made.length := by rw [← isTrace.length_eq]; exact inside
    obtain ⟨time, found, latest⟩ := isTrace.kept index _ (List.getElem?_eq_getElem inMade)
    rw [(List.getElem?_eq_some_iff.mp found).2]
    exact latest
  obtain ⟨record, inside, same⟩ := (ofTrace earlyInside).attained
  rw [← same]
  refine (ofTrace lateInside).bound record ?_
  exact (List.take_prefix_take_left (by omega)).subset inside

end IsTraceOf

/-! What calls make of the trace of one id. -/

def recordsFor (id : String) (calls : List Call) : List TraceRecord :=
  calls.filterMap (Call.recordFor? id)

theorem traces_of_not_contains {recorder : Recorder} {id : String}
    (absent : recorder.logs.contains id = false) : recorder.traces id = [] := by
  rw [Dict.contains, Option.isSome_eq_false_iff, Option.isNone_iff_eq_none] at absent
  rw [traces, absent]
  rfl

/-- A call that does not take away the trace appends the record that it makes for the id, if it
makes one. -/
theorem traces_perform {recorder : Recorder} {call : Call} {id : String}
    (stays : ¬ recorder.Removes call id) :
    (recorder.perform call).traces id =
      (call.recordFor? id).toList.foldl appended (recorder.traces id) := by
  rcases recorder.perform_log_cases call id with
    ⟨record, log, made, found, records⟩ | ⟨nothing, same⟩ | ⟨nothing, gone, -⟩
  · rw [made, traces, found]
    exact records
  · rw [nothing, traces, same]
    rfl
  · have absentAfter : (recorder.perform call).logs.contains id = false := by
      rw [Dict.contains, gone]
      rfl
    have absent : recorder.logs.contains id = false :=
      Bool.eq_false_iff.mpr fun present => stays ⟨present, absentAfter⟩
    rw [nothing, traces_of_not_contains absent, traces_of_not_contains absentAfter]
    rfl

theorem traces_run {recorder : Recorder} {calls : List Call} {id : String}
    (stays : Always (fun recorder call => ¬ recorder.Removes call id) recorder calls) :
    (recorder.run calls).traces id =
      (recordsFor id calls).foldl appended (recorder.traces id) := by
  induction calls generalizing recorder with
  | nil => rfl
  | cons call later ih =>
    rw [run_cons, ih stays.2, traces_perform stays.1, recordsFor, recordsFor, List.filterMap_cons]
    cases call.recordFor? id <;> rfl

theorem exists_last_removal (recorder : Recorder) (calls : List Call) (id : String) :
    ∃ earlier since, calls = earlier ++ since ∧
      (earlier = [] ∨ ∃ before last, earlier = before ++ [last] ∧
        (recorder.run before).Removes last id) ∧
      Always (fun recorder call => ¬ recorder.Removes call id) (recorder.run earlier) since := by
  induction calls using List.reverseRecOn with
  | nil => exact ⟨[], [], rfl, Or.inl rfl, trivial⟩
  | append_singleton calls last ih =>
    by_cases removes : (recorder.run calls).Removes last id
    · exact ⟨calls ++ [last], [], by simp, Or.inr ⟨calls, last, rfl, removes⟩, trivial⟩
    · obtain ⟨earlier, since, rfl, removed, stays⟩ := ih
      rw [run_append] at removes
      exact ⟨earlier, since ++ [last], by simp, removed, stays.concat removes⟩

/-- The trace of an id holds the records made for it since the trace was removed last. -/
theorem exists_isTraceOf (mode : TraceMode) (retentionSecs : UInt64) (maxRequests : Nat)
    (calls : List Call) (id : String) :
    ∃ earlier since, calls = earlier ++ since ∧
      (earlier = [] ∨ ∃ before last, earlier = before ++ [last] ∧
        ((new mode retentionSecs maxRequests).run before).Removes last id) ∧
      Always (fun recorder call => ¬ recorder.Removes call id)
        ((new mode retentionSecs maxRequests).run earlier) since ∧
      IsTraceOf (recordsFor id since)
        (((new mode retentionSecs maxRequests).run calls).traces id) := by
  obtain ⟨earlier, since, rfl, removed, stays⟩ :=
    (new mode retentionSecs maxRequests).exists_last_removal calls id
  refine ⟨earlier, since, rfl, removed, stays, ?_⟩
  have empty : ((new mode retentionSecs maxRequests).run earlier).traces id = [] := by
    rcases removed with rfl | ⟨before, last, rfl, removes⟩
    · rfl
    · rw [run_concat]
      exact traces_of_not_contains removes.2
  rw [run_append, traces_run stays, empty]
  exact IsTraceOf.nil.foldl _

/-- Whatever a recorder is called for and in whatever order, the trace of an id holds exactly the
records made for it since the trace was removed last, in their order, each with the latest time up
to its own, so that times never go back. A call removes the trace as a whole or leaves what there is
of it as it is, and it never removes it while a request of the id is running; so what is recorded
while one is running stays together. -/
theorem traces_append_only (mode : TraceMode) (retentionSecs : UInt64) (maxRequests : Nat)
    (calls : List Call) (id : String) :
    let after := (new mode retentionSecs maxRequests).run
    (∃ earlier since, calls = earlier ++ since ∧
      (earlier = [] ∨ ∃ before last, earlier = before ++ [last] ∧ (after before).Removes last id) ∧
      Always (fun recorder call => ¬ recorder.Removes call id) (after earlier) since ∧
      IsTraceOf (recordsFor id since) ((after calls).traces id)) ∧
    ((after calls).traces id).Pairwise
      (fun first second => first.timestamp.rank ≤ second.timestamp.rank) ∧
    (∀ call, ((after calls).Removes call id →
        (after (calls ++ [call])).traces id = [] ∧ (after calls).isRunning id = false) ∧
      (¬ (after calls).Removes call id →
        (after calls).traces id <+: (after (calls ++ [call])).traces id)) ∧
    ((after calls).isRunning id = true ↔ ∃ since, since <:+ calls ∧
      since.countP (Call.finishes id) < since.countP (Call.begins id)) ∧
    (∀ earlier during, calls = earlier ++ during →
      Always (fun recorder _ => recorder.isRunning id = true) (after earlier) during →
      ∃ made, IsTraceOf made ((after earlier).traces id) ∧
        IsTraceOf (made ++ recordsFor id during) ((after calls).traces id)) := by
  intro after
  have isTrace := exists_isTraceOf mode retentionSecs maxRequests
  refine ⟨isTrace calls id, ?_, fun call => ?_,
    isRunning_run_iff mode retentionSecs maxRequests calls id, ?_⟩
  · obtain ⟨_, _, -, -, -, holds⟩ := isTrace calls id
    exact holds.sorted
  · have next : after (calls ++ [call]) = (after calls).perform call := run_concat _ calls call
    rw [next]
    refine ⟨fun removes => ⟨traces_of_not_contains removes.2, removes.idle⟩, fun stays => ?_⟩
    rw [traces_perform stays]
    cases call.recordFor? id with
    | none => exact List.prefix_refl _
    | some record => exact List.prefix_append _ _
  · rintro earlier during rfl running
    have stays : Always (fun recorder call => ¬ recorder.Removes call id) (after earlier) during :=
      running.mono fun recorder call runs removes => by
        rw [removes.idle] at runs
        cases runs
    obtain ⟨_, since, -, -, -, holds⟩ := isTrace earlier id
    refine ⟨recordsFor id since, holds, ?_⟩
    have next : after (earlier ++ during) = (after earlier).run during :=
      run_append _ earlier during
    rw [next, traces_run stays]
    exact holds.foldl _

end Recorder

end Switchyard
