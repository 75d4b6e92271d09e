import Mathlib.Data.List.Forall2
import Switchyard.Proofs.Trace.AppendOnly
import Switchyard.Proofs.Trace.Room
set_option autoImplicit false

/-! What a recorder keeps of the activations that it is called for, and when a trace is whole. Main
statements: `activations_are_latest`, the activations that are kept for a node are the latest of
those that have been made for it, whatever else the recorder is called for in between;
`isTraceOf_of_whole`, a trace with as many records as were made for its id holds all of them. -/
namespace Switchyard.Recorder

def Call.activationFor? (nodeId : String) : Call → Option NodeActivation
  | .recordActivation made activation => if made = nodeId then some activation else none
  | _ => none

def activationsFor (nodeId : String) (calls : List Call) : List NodeActivation :=
  calls.filterMap (Call.activationFor? nodeId)

/-- As many of the latest activations as there is room for. -/
def latestActivations (made : List NodeActivation) : List NodeActivation :=
  made.drop (made.length - maxActivations)

theorem latestActivations_of_few {made : List NodeActivation}
    (few : made.length ≤ maxActivations) : latestActivations made = made := by
  have none : made.length - maxActivations = 0 := by omega
  rw [latestActivations, none, List.drop_zero]

theorem latestActivations_concat (made : List NodeActivation) (activation : NodeActivation) :
    (if maxActivations ≤ (latestActivations made).length then (latestActivations made).drop 1
      else latestActivations made) ++ [activation] = latestActivations (made ++ [activation]) := by
  have length : (latestActivations made).length = made.length - (made.length - maxActivations) :=
    List.length_drop
  have some : 0 < maxActivations := by decide
  by_cases full : maxActivations ≤ made.length
  · have isFull : maxActivations ≤ (latestActivations made).length := by omega
    have next : made.length + 1 - maxActivations = made.length - maxActivations + 1 := by omega
    rw [if_pos isFull, latestActivations, latestActivations, List.drop_drop, List.length_append,
      List.length_singleton, next, List.drop_append_of_le_length (by omega)]
  · have isNot : ¬ maxActivations ≤ (latestActivations made).length := by omega
    rw [if_neg isNot, latestActivations_of_few (by omega), latestActivations_of_few]
    rw [List.length_append, List.length_singleton]
    omega

theorem activationsOf_recordActivation (recorder : Recorder) (made nodeId : String)
    (activation : NodeActivation) :
    (recorder.recordActivation made activation).activationsOf nodeId =
      if made = nodeId then
        (if maxActivations ≤ (recorder.activationsOf made).length
          then (recorder.activationsOf made).drop 1 else recorder.activationsOf made) ++
          [activation]
      else recorder.activationsOf nodeId := by
  unfold recordActivation activationsOf
  dsimp only
  rw [Dict.get?_insert]
  by_cases same : made = nodeId
  · rw [if_pos same, if_pos same]
    rfl
  · rw [if_neg same, if_neg same]

theorem activationsOf_perform {recorder : Recorder} {nodeId : String}
    {made : List NodeActivation} (held : recorder.activationsOf nodeId = latestActivations made)
    (call : Call) :
    (recorder.perform call).activationsOf nodeId =
      latestActivations (made ++ (call.activationFor? nodeId).toList) := by
  have others : (recorder.perform call).activations = recorder.activations →
      (recorder.perform call).activationsOf nodeId = latestActivations (made ++ []) := by
    intro same
    rw [List.append_nil, ← held, activationsOf, same, activationsOf]
  have stays := recorder.perform_activations call
  cases call with
  | recordActivation told activation =>
    change (recorder.recordActivation told activation).activationsOf nodeId = _
    rw [activationsOf_recordActivation, Call.activationFor?]
    by_cases same : told = nodeId
    · subst same
      rw [if_pos rfl, if_pos rfl, held, latestActivations_concat]
      rfl
    · rw [if_neg same, if_neg same, held, Option.toList_none, List.append_nil]
  | beginRequest | record | recordDecision | finishRequest | purgeBefore => exact others stays

/-- The activations that are kept for a node are the latest of those made for it. -/
theorem activationsOf_run {recorder : Recorder} {nodeId : String} {made : List NodeActivation}
    (held : recorder.activationsOf nodeId = latestActivations made) (calls : List Call) :
    (recorder.run calls).activationsOf nodeId =
      latestActivations (made ++ activationsFor nodeId calls) := by
  induction calls generalizing recorder made with
  | nil =>
    rw [activationsFor, List.filterMap_nil, List.append_nil]
    exact held
  | cons call later ih =>
    have split : activationsFor nodeId (call :: later) =
        (call.activationFor? nodeId).toList ++ activationsFor nodeId later := by
      unfold activationsFor
      rw [List.filterMap_cons]
      cases call.activationFor? nodeId <;> rfl
    rw [run_cons, ih (activationsOf_perform held call), split, List.append_assoc]

/-- What is kept for a node are the last thousand of the activations made for it, all of them if they
are fewer, in their order, whatever else the recorder is called for and for whatever other nodes.
Purging expired traces is one more such call. -/
theorem activations_are_latest (mode : TraceMode) (retentionSecs : UInt64) (maxRequests : Nat)
    (calls : List Call) (nodeId : String) :
    let fresh := new mode retentionSecs maxRequests
    let made := activationsFor nodeId calls
    let kept := (fresh.run calls).activationsOf nodeId
    kept = made.drop (made.length - min made.length 1000) ∧
    kept.length = min made.length 1000 ∧
    ∀ now, ∀ purged ∈ (fresh.run calls).purgeExpired? now,
      purged.1.activationsOf nodeId = kept ∧
      ∃ cutoff, purged.1 = fresh.run (calls ++ [.purgeBefore cutoff]) := by
  intro fresh made kept
  have latest : kept = latestActivations made := by
    have nothing : fresh.activationsOf nodeId = latestActivations [] := rfl
    apply activationsOf_run nothing
  have dropped : made.length - min made.length 1000 = made.length - maxActivations := by
    rw [maxActivations]
    omega
  refine ⟨?_, ?_, ?_⟩
  · rw [latest, dropped]
    rfl
  · rw [latest, latestActivations, List.length_drop, maxActivations]
    omega
  · intro now purged inside
    obtain ⟨cutoff, -, rfl⟩ := Option.map_eq_some_iff.mp inside
    refine ⟨rfl, cutoff, ?_⟩
    rw [run_concat]
    rfl

/-! Whole traces. -/

/-- A trace with as many records as were made for its id holds all of them. -/
theorem isTraceOf_of_whole (mode : TraceMode) (retentionSecs : UInt64) (maxRequests : Nat)
    {calls : List Call} {id : String}
    (whole : (((new mode retentionSecs maxRequests).run calls).traces id).length =
      (recordsFor id calls).length) :
    IsTraceOf (recordsFor id calls)
      (((new mode retentionSecs maxRequests).run calls).traces id) := by
  obtain ⟨earlier, since, rfl, -, -, isTrace⟩ :=
    exists_isTraceOf mode retentionSecs maxRequests calls id
  have split : recordsFor id (earlier ++ since) = recordsFor id earlier ++ recordsFor id since :=
    List.filterMap_append
  have counted := isTrace.length_eq
  rw [whole, split, List.length_append] at counted
  have nothing : recordsFor id earlier = [] := List.length_eq_zero_iff.mp (by omega)
  rw [split, nothing, List.nil_append]
  exact isTrace

/-- What does not depend on the times of records is the same for a trace and for what was made. -/
theorem IsTraceOf.map_filter_eq {made log : List TraceRecord} (isTrace : IsTraceOf made log)
    {α : Type} {select : TraceRecord → Bool} {read : TraceRecord → α}
    (selects : ∀ record time, select { record with timestamp := time } = select record)
    (reads : ∀ record time, read { record with timestamp := time } = read record) :
    (log.filter select).map read = (made.filter select).map read := by
  have alike : List.Forall₂
      (fun kept first => ∃ time, kept = { first with timestamp := time }) log made := by
    rw [List.forall₂_iff_get]
    refine ⟨isTrace.length_eq, ?_⟩
    intro index inLog inMade
    obtain ⟨time, found, -⟩ := isTrace.kept index _ (List.getElem?_eq_getElem inMade)
    exact ⟨time, (List.getElem?_eq_some_iff.mp found).2⟩
  clear isTrace
  induction alike with
  | nil => rfl
  | cons same _ ih =>
    obtain ⟨time, rfl⟩ := same
    rw [List.filter_cons, List.filter_cons, selects]
    split
    · rw [List.map_cons, List.map_cons, reads, ih]
    · exact ih

end Switchyard.Recorder
