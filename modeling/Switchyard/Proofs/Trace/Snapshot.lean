import Switchyard.Proofs.Trace.AppendOnly
set_option autoImplicit false

/-! The latest records of all traces together. They are the end of what a stable sort by time makes
of all records, in whatever order the traces come; and since every trace is in order of time
already, they hold the end of each trace. Main statement: `Recorder.snapshot_is_tail`. -/
namespace Switchyard

namespace TraceRecord

def notAfter (first second : TraceRecord) : Bool :=
  decide (first.timestamp.rank ≤ second.timestamp.rank)

theorem notAfter_iff {first second : TraceRecord} :
    first.notAfter second = true ↔ first.timestamp.rank ≤ second.timestamp.rank :=
  decide_eq_true_iff

theorem notAfter_trans (first second third : TraceRecord) (left : first.notAfter second = true)
    (right : second.notAfter third = true) : first.notAfter third = true := by
  rw [notAfter_iff] at left right ⊢
  exact Int.le_trans left right

theorem notAfter_total (first second : TraceRecord) :
    (first.notAfter second || second.notAfter first) = true := by
  rw [Bool.or_eq_true, notAfter_iff, notAfter_iff]
  exact Int.le_total _ _

/-- All records in order of time; records of equal time keep their order. -/
def byTime (records : List TraceRecord) : List TraceRecord := records.mergeSort notAfter

theorem byTime_sorted (records : List TraceRecord) :
    (byTime records).Pairwise fun first second => first.timestamp.rank ≤ second.timestamp.rank :=
  (List.pairwise_mergeSort notAfter_trans notAfter_total records).imp notAfter_iff.mp

theorem byTime_perm (records : List TraceRecord) : (byTime records).Perm records :=
  List.mergeSort_perm records notAfter

/-- Records that are in order of time already stay as they are among themselves, whatever others
there are. -/
theorem filter_byTime {records : List TraceRecord} {chosen : TraceRecord → Bool}
    (sorted : (records.filter chosen).Pairwise fun first second =>
      first.timestamp.rank ≤ second.timestamp.rank) :
    (byTime records).filter chosen = records.filter chosen := by
  have stay : (records.filter chosen).Sublist (byTime records) :=
    List.sublist_mergeSort notAfter_trans notAfter_total (sorted.imp notAfter_iff.mpr)
      List.filter_sublist
  have among : (records.filter chosen).Sublist ((byTime records).filter chosen) := by
    have both := stay.filter chosen
    rwa [List.filter_filter, List.filter_congr fun record _ => Bool.and_self (chosen record)]
      at both
  have lengths : ((byTime records).filter chosen).length = (records.filter chosen).length :=
    ((byTime_perm records).filter chosen).length_eq
  exact (among.eq_of_length lengths.symm).symm

def isOf (id : String) (record : TraceRecord) : Bool := record.correlationId = id

end TraceRecord

namespace Recorder

open TraceRecord

def retained (recorder : Recorder) : List TraceRecord :=
  recorder.logs.keys.flatMap recorder.traces

/-- Every trace holds records of its own id only, in order of time. -/
structure Filed (recorder : Recorder) : Prop where
  own : ∀ id, ∀ record ∈ recorder.traces id, record.correlationId = id
  sorted : ∀ id, (recorder.traces id).Pairwise fun first second =>
    first.timestamp.rank ≤ second.timestamp.rank

theorem run_filed (mode : TraceMode) (retentionSecs : UInt64) (maxRequests : Nat)
    (calls : List Call) : ((new mode retentionSecs maxRequests).run calls).Filed := by
  refine ⟨?_, ?_⟩
  · intro id record inside
    obtain ⟨_, since, -, -, -, isTrace⟩ :=
      exists_isTraceOf mode retentionSecs maxRequests calls id
    obtain ⟨made, madeFor, time, rfl⟩ := isTrace.made_of_mem inside
    obtain ⟨call, -, makes⟩ := List.mem_filterMap.mp madeFor
    cases call with
    | record now first =>
      simp only [Call.recordFor?, Option.ite_none_right_eq_some, Option.some.injEq] at makes
      obtain ⟨same, rfl⟩ := makes
      exact same
    | _ => cases makes
  · intro id
    obtain ⟨_, _, -, -, -, isTrace⟩ :=
      exists_isTraceOf mode retentionSecs maxRequests calls id
    exact isTrace.sorted

/-- The end of all records in order of time. -/
structure IsTail (recorder : Recorder) (recent : List TraceRecord) : Prop where
  length_eq : recent.length = min maxSnapshotRecords recorder.retained.length
  sorted : recent.Pairwise fun first second => first.timestamp.rank ≤ second.timestamp.rank
  /-- All records are either shown or left out, each of them once, and none that is shown is older
  than one that is left out. -/
  newest : ∃ omitted, (omitted ++ recent).Perm recorder.retained ∧
    ∀ old ∈ omitted, ∀ shown ∈ recent, old.timestamp.rank ≤ shown.timestamp.rank
  suffix : ∀ id, recent.filter (isOf id) <:+ recorder.traces id

section Order

variable {recorder : Recorder} {order : List (String × TraceLog)}

theorem traces_of_mem {entry : String × TraceLog} (inside : entry ∈ recorder.logs.entries) :
    recorder.traces entry.1 = entry.2.records := by
  rw [traces, (recorder.logs.get?_eq_some_iff entry.1 entry.2).mpr inside]
  rfl

theorem flatMap_records_perm (listed : order.Perm recorder.logs.entries) :
    (order.flatMap (·.2.records)).Perm recorder.retained := by
  have same : recorder.retained = recorder.logs.entries.flatMap (·.2.records) := by
    rw [retained, Dict.keys, List.flatMap_map, List.flatMap_def, List.flatMap_def]
    exact congrArg List.flatten (List.map_congr_left fun entry inside => traces_of_mem inside)
  rw [same]
  exact listed.flatMap_right _

theorem filter_flatMap_of_ne (filed : recorder.Filed) {id : String}
    (held : order ⊆ recorder.logs.entries) (others : ∀ entry ∈ order, entry.1 ≠ id) :
    (order.flatMap (·.2.records)).filter (isOf id) = [] := by
  rw [List.filter_eq_nil_iff]
  intro record inside
  obtain ⟨entry, among, here⟩ := List.mem_flatMap.mp inside
  rw [← traces_of_mem (held among)] at here
  rw [isOf, decide_eq_true_eq, filed.own entry.1 record here]
  exact others entry among

theorem filter_flatMap_records (filed : recorder.Filed)
    (listed : order.Perm recorder.logs.entries) (id : String) :
    (order.flatMap (·.2.records)).filter (isOf id) = recorder.traces id := by
  cases held : recorder.logs.get? id with
  | none =>
    have nothing : recorder.traces id = [] := by
      rw [traces, held]
      rfl
    rw [nothing]
    apply filter_flatMap_of_ne filed listed.subset
    rintro entry inside rfl
    rw [(recorder.logs.get?_eq_some_iff entry.1 entry.2).mpr (listed.subset inside)] at held
    cases held
  | some log =>
    have inside : (id, log) ∈ order :=
      listed.symm.subset ((recorder.logs.get?_eq_some_iff id log).mp held)
    -- Every other trace is of another id, since no id is listed twice.
    have distinct : (order.map (·.1)).Nodup :=
      (listed.map _).nodup_iff.mpr recorder.logs.keys_nodup
    obtain ⟨before, after, split⟩ := List.append_of_mem inside
    rw [split, List.map_append, List.map_cons, List.nodup_append, List.nodup_cons] at distinct
    have others := listed.subset
    rw [split, List.append_subset, List.cons_subset] at others
    have first : (before.flatMap (·.2.records)).filter (isOf id) = [] := by
      apply filter_flatMap_of_ne filed others.1
      intro entry among
      exact distinct.2.2 entry.1 (List.mem_map_of_mem among) id List.mem_cons_self
    have last : (after.flatMap (·.2.records)).filter (isOf id) = [] := by
      apply filter_flatMap_of_ne filed others.2.2
      intro entry among same
      exact distinct.2.1.1 (List.mem_map.mpr ⟨entry, among, same⟩)
    have own : log.records.filter (isOf id) = log.records := by
      rw [List.filter_eq_self]
      intro record made
      rw [← traces_of_mem others.2.1] at made
      exact decide_eq_true (filed.own id record made)
    rw [split, List.flatMap_append, List.flatMap_cons, List.filter_append, List.filter_append,
      first, own, last, List.append_nil, List.nil_append, traces_of_mem others.2.1]

/-- In whatever order the traces come, the latest records are the end of all of them. -/
theorem latest_isTail (filed : recorder.Filed) (listed : order.Perm recorder.logs.entries) :
    recorder.IsTail (latest (order.flatMap (·.2.records))) := by
  have all := flatMap_records_perm listed
  have own := filter_flatMap_records filed listed
  generalize order.flatMap (·.2.records) = records at all own
  have perm : (byTime records).Perm recorder.retained := (byTime_perm records).trans all
  have sorted := byTime_sorted records
  -- What is left out stands in front of what is shown.
  obtain ⟨count, tail⟩ : ∃ count, latest records = (byTime records).drop count ∧
      count = recorder.retained.length - maxSnapshotRecords := by
    refine ⟨_, rfl, ?_⟩
    exact congrArg (· - maxSnapshotRecords) perm.length_eq
  have parts := List.take_append_drop count (byTime records)
  rw [tail.1]
  refine ⟨?_, sorted.sublist (List.drop_sublist _ _), ⟨(byTime records).take count, ?_, ?_⟩, ?_⟩
  · rw [List.length_drop, perm.length_eq, tail.2]
    omega
  · rw [parts]
    exact perm
  · rw [← parts, List.pairwise_append] at sorted
    exact sorted.2.2
  · intro id
    have ordered := filed.sorted id
    rw [← own id] at ordered ⊢
    rw [← filter_byTime ordered]
    exact (List.drop_suffix count (byTime records)).filter (isOf id)

end Order

/-- Whatever a recorder has been called for, a snapshot shows the end of all records of all traces:
as many as there are up to a hundred, in order of time, each record once, none older than one that it
leaves out, and of every id the last records of its trace in their order. It does so in whatever
order the traces are gone through, and whatever records are of the same time. -/
theorem snapshot_is_tail (mode : TraceMode) (retentionSecs : UInt64) (maxRequests : Nat)
    (calls : List Call) :
    let recorder := (new mode retentionSecs maxRequests).run calls
    (∀ now metrics, recorder.IsTail (recorder.snapshot now metrics).recent) ∧
    ∀ order : List (String × TraceLog), order.Perm recorder.logs.entries →
      recorder.IsTail (latest (order.flatMap (·.2.records))) := by
  intro recorder
  have filed : recorder.Filed := run_filed mode retentionSecs maxRequests calls
  refine ⟨?_, ?_⟩
  · intro now metrics
    have shown : (recorder.snapshot now metrics).recent =
        latest (recorder.logs.entries.flatMap (·.2.records)) :=
      congrArg latest (List.flatMap_map _ _ _)
    rw [shown]
    exact latest_isTail filed (List.Perm.refl _)
  · intro order listed
    exact latest_isTail filed listed

end Recorder

end Switchyard
