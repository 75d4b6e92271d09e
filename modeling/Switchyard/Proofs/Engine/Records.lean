import Switchyard.Proofs.Engine.Calls
import Switchyard.Proofs.Trace.AppendOnly
set_option autoImplicit false

/-! What the records of an engine's traces are records of. Main statement: `Engine.exists_written`,
so that what holds of the record of every node holds of every trace. -/
namespace Switchyard.Engine

variable {engine : Engine}

/-- The record is the one that some node leaves which has been given some context. -/
def Written (engine : Engine) (record : TraceRecord) : Prop :=
  ∃ node before startedAt endedAt result, record =
    engine.controller.executor.recordOf node before startedAt endedAt
      (engine.controller.executor.decision? node before) result

theorem State.Orderly.calls_written {state : State} (orderly : state.Orderly) (now : Timestamp)
    (event : Event) :
    ∀ call ∈ engine.calls now state event, ∀ id, ∀ made ∈ call.recordFor? id,
      engine.Written made := by
  intro call inside id made records
  have origin := engine.origin_of_calls inside
  cases call with
  | record time first =>
    obtain ⟨live, liveInside, -, stage, walking, recorded⟩ := origin
    have own := orderly.own live liveInside
    rw [walking] at own
    have isRecord : first ∈
        (stage.advance engine.controller.executor live.cancelled now).2.filterMap
          Effect.record? := Effect.mem_filterMap_record?.mpr recorded
    have same : first = made := by
      change (if first.correlationId = id then some first else none) = some made at records
      split at records
      · exact Option.some.inj records
      · cases records
    rw [← same]
    rcases Stage.quiet_or_recorded engine.controller.executor live.cancelled now own with
      quiet | ⟨node, before, startedAt, endedAt, result, one⟩
    · exact (quiet _ recorded).elim
    · rw [one] at isRecord
      exact ⟨node, before, startedAt, endedAt, result, List.mem_singleton.mp isRecord⟩
  | _ => cases records

theorem State.Orderly.callsAlong_written {state : State} (orderly : state.Orderly)
    (events : List (Timestamp × Event)) :
    ∀ call ∈ engine.callsAlong state events, ∀ id, ∀ made ∈ call.recordFor? id,
      engine.Written made := by
  induction events generalizing state with
  | nil => exact List.forall_mem_nil _
  | cons event later ih =>
    rw [callsAlong_cons]
    exact List.forall_mem_append.mpr
      ⟨orderly.calls_written event.1 event.2, ih (orderly.handle engine event.1 event.2)⟩

/-- Every record of every trace is the record of a node, apart from its time. -/
theorem exists_written (events : List (Timestamp × Event)) (id : String) {record : TraceRecord}
    (inside : record ∈ (engine.run engine.initial events).recorder.traces id) :
    ∃ written time, engine.Written written ∧ record = { written with timestamp := time } := by
  rw [run_recorder] at inside
  obtain ⟨earlier, since, split, -, -, isTrace⟩ := Recorder.exists_isTraceOf
    engine.settings.traceMode engine.settings.retentionSecs engine.settings.maxTracedRequests.toNat
    (engine.callsAlong engine.initial events) id
  obtain ⟨first, made, time, rfl⟩ := isTrace.made_of_mem inside
  obtain ⟨call, calledSince, records⟩ := List.mem_filterMap.mp made
  have among : call ∈ engine.callsAlong engine.initial events := by
    rw [split]
    exact List.mem_append_right _ calledSince
  have written := (engine.run_orderly []).callsAlong_written events call among id first records
  exact ⟨first, time, written, rfl⟩

end Switchyard.Engine
