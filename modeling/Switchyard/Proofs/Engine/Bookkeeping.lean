import Mathlib.Data.List.Nodup
import Switchyard.Proofs.Engine.Run
set_option autoImplicit false

/-! What the engine keeps account of while requests start, go on, end, are given up, cancelled or
stopped in any order: the table of requests in flight, and how many requests of each id are
running. -/
namespace Switchyard

namespace Engine

namespace State

/-- How many live requests have a correlation id. -/
def liveCount (state : State) (id : String) : Nat :=
  state.live.countP fun live => live.request.correlationId = id

/-- The accounts are right. -/
structure Booked (state : State) : Prop where
  distinct : (state.live.map (·.seq)).Nodup
  issued : ∀ live ∈ state.live, live.seq < state.nextSeq
  /-- Every entry of the table is that of a live request. -/
  entryLive : ∀ id seq, state.inFlight.get? id = some seq →
    ∃ live ∈ state.live, live.seq = seq ∧ live.request.correlationId = id
  /-- A request whose entry a newer one has taken over is cancelled. -/
  ownsOrCancelled : ∀ live ∈ state.live,
    state.inFlight.get? live.request.correlationId = some live.seq ∨ live.cancelled = true
  counted : ∀ id, state.recorder.running.get? id =
    if state.liveCount id = 0 then none else some (state.liveCount id)

theorem Booked.eq_of_seq_eq {state : State} (booked : state.Booked) {first second : LiveRequest}
    (firstLive : first ∈ state.live) (secondLive : second ∈ state.live)
    (same : first.seq = second.seq) : first = second :=
  List.inj_on_of_nodup_map booked.distinct firstLive secondLive same

theorem Booked.find?_eq {state : State} (booked : state.Booked) {live : LiveRequest}
    (inside : live ∈ state.live) : state.find? live.seq = some live := by
  cases found : state.find? live.seq with
  | none =>
    have absent := List.find?_eq_none.mp found live inside
    simp at absent
  | some other =>
    obtain ⟨otherInside, sameSeq⟩ := mem_of_find? found
    rw [booked.eq_of_seq_eq otherInside inside sameSeq]

theorem Booked.runningCount_eq {state : State} (booked : state.Booked) (id : String) :
    state.recorder.runningCount id = state.liveCount id := by
  rw [Recorder.runningCount, booked.counted]
  split
  · rename_i none
    rw [none]
    rfl
  · rfl

theorem Booked.isRunning {state : State} (booked : state.Booked) {live : LiveRequest}
    (inside : live ∈ state.live) :
    state.recorder.isRunning live.request.correlationId = true := by
  have positive : 0 < state.liveCount live.request.correlationId :=
    List.countP_pos_iff.mpr ⟨live, inside, by simp⟩
  rw [Recorder.isRunning_iff, booked.counted, if_neg (by omega)]
  exact ⟨_, rfl⟩

theorem Booked.mapLive {state : State} (booked : state.Booked)
    {change : LiveRequest → LiveRequest} (seq : ∀ live, (change live).seq = live.seq)
    (request : ∀ live, (change live).request = live.request)
    (cancelled : ∀ live, live.cancelled = true → (change live).cancelled = true) :
    (state.mapLive change).Booked := by
  have counts : ∀ id, (state.mapLive change).liveCount id = state.liveCount id := by
    intro id
    simp only [liveCount, State.mapLive, List.countP_map]
    congr 1
    funext live
    simp [request]
  refine ⟨?_, ?_, ?_, ?_, ?_⟩
  · have unchanged : (state.mapLive change).live.map (·.seq) = state.live.map (·.seq) := by
      simp only [State.mapLive, List.map_map]
      exact List.map_congr_left fun live _ => seq live
    rw [unchanged]
    exact booked.distinct
  · intro live inside
    obtain ⟨before, beforeInside, rfl⟩ := List.mem_map.mp inside
    rw [seq]
    exact booked.issued before beforeInside
  · intro id owner found
    obtain ⟨live, inside, sameSeq, sameId⟩ := booked.entryLive id owner found
    refine ⟨change live, List.mem_map_of_mem inside, ?_, ?_⟩
    · rw [seq, sameSeq]
    · rw [request, sameId]
  · intro live inside
    obtain ⟨before, beforeInside, rfl⟩ := List.mem_map.mp inside
    rw [request, seq]
    exact (booked.ownsOrCancelled before beforeInside).imp id (cancelled before)
  · intro id
    rw [counts]
    exact booked.counted id

theorem Booked.withRecorder {state : State} (booked : state.Booked) {recorder : Recorder}
    (same : recorder.running = state.recorder.running) :
    ({ state with recorder := recorder } : State).Booked :=
  { booked with counted := fun id => (congrArg (·.get? id) same).trans (booked.counted id) }

theorem Booked.cancelSeq {state : State} (booked : state.Booked) (seq : Nat) :
    (state.cancelSeq seq).Booked := by
  apply booked.mapLive
  all_goals
    intro live
    split <;> simp_all

theorem Booked.setPhase {state : State} (booked : state.Booked) (seq : Nat) (phase : Phase) :
    (state.setPhase seq phase).Booked := by
  apply booked.mapLive
  all_goals
    intro live
    split <;> simp_all

theorem Booked.cancel {state : State} (booked : state.Booked) (id : String) :
    (state.cancel id).1.Booked := by
  unfold State.cancel
  split
  · exact booked.cancelSeq _
  · exact booked

theorem Booked.shutdown {state : State} (booked : state.Booked) : state.shutdown.Booked := by
  have cancelled : (state.mapLive fun live => { live with cancelled := true }).Booked :=
    booked.mapLive (fun _ => rfl) (fun _ => rfl) (fun _ _ => rfl)
  exact { cancelled with }

@[simp] theorem cancel_inFlight (state : State) (id : String) :
    (state.cancel id).1.inFlight = state.inFlight := by
  unfold State.cancel
  split <;> rfl

@[simp] theorem cancel_recorder (state : State) (id : String) :
    (state.cancel id).1.recorder = state.recorder := by
  unfold State.cancel
  split <;> rfl

@[simp] theorem cancel_nextSeq (state : State) (id : String) :
    (state.cancel id).1.nextSeq = state.nextSeq := by
  unfold State.cancel
  split <;> rfl

theorem Booked.cancelled_of_cancel {state : State} (booked : state.Booked) {id : String}
    {live : LiveRequest} (inside : live ∈ (state.cancel id).1.live)
    (sameId : live.request.correlationId = id) : live.cancelled = true := by
  unfold State.cancel at inside
  split at inside
  · rename_i owner found
    obtain ⟨before, beforeInside, rfl⟩ := List.mem_map.mp inside
    split
    · rfl
    · rename_i different
      rw [if_neg different] at sameId
      rcases booked.ownsOrCancelled before beforeInside with owns | cancelled
      · rw [sameId, found] at owns
        exact absurd (Option.some.inj owns).symm different
      · exact cancelled
  · rename_i absent
    rcases booked.ownsOrCancelled live inside with owns | cancelled
    · rw [sameId, absent] at owns
      cases owns
    · exact cancelled

theorem Booked.start {state : State} (booked : state.Booked) (request : Request) :
    (state.start request).1.Booked := by
  have before := booked.cancel request.correlationId
  have counts : ∀ id, (state.start request).1.liveCount id =
      (state.cancel request.correlationId).1.liveCount id +
        if request.correlationId = id then 1 else 0 := by
    intro id
    simp only [State.start, liveCount, List.countP_append, List.countP_singleton,
      decide_eq_true_eq]
  refine ⟨?_, ?_, ?_, ?_, ?_⟩
  · simp only [State.start, List.map_append, List.map_cons, List.map_nil]
    refine List.nodup_append.mpr ⟨before.distinct, List.nodup_singleton _, ?_⟩
    intro seq inside other single
    obtain ⟨live, liveInside, rfl⟩ := List.mem_map.mp inside
    have below := before.issued live liveInside
    rw [cancel_nextSeq] at below
    rw [List.mem_singleton.mp single]
    omega
  · intro live inside
    simp only [State.start, cancel_nextSeq] at inside ⊢
    rcases List.mem_append.mp inside with earlier | fresh
    · have below := before.issued live earlier
      rw [cancel_nextSeq] at below
      omega
    · rw [List.mem_singleton.mp fresh]
      exact Nat.lt_succ_self state.nextSeq
  · intro id seq found
    simp only [State.start, cancel_inFlight, Dict.get?_insert] at found ⊢
    split at found
    · rename_i same
      exact ⟨_, List.mem_append_right _ (List.mem_singleton_self _), Option.some.inj found, same⟩
    · obtain ⟨live, inside, sameSeq, sameId⟩ := before.entryLive id seq (by simpa using found)
      exact ⟨live, List.mem_append_left _ inside, sameSeq, sameId⟩
  · intro live inside
    simp only [State.start, cancel_inFlight, Dict.get?_insert] at inside ⊢
    rcases List.mem_append.mp inside with earlier | fresh
    · -- The new entry replaces that of an earlier request, which has just been cancelled.
      by_cases same : request.correlationId = live.request.correlationId
      · exact Or.inr (booked.cancelled_of_cancel earlier same.symm)
      · rw [if_neg same]
        simpa using before.ownsOrCancelled live earlier
    · rw [List.mem_singleton.mp fresh]
      exact Or.inl (if_pos rfl)
  · intro id
    rw [counts]
    have running : (state.start request).1.recorder =
        (state.cancel request.correlationId).1.recorder.beginRequest request.correlationId := by
      simp [State.start]
    rw [running, Recorder.running_beginRequest, before.runningCount_eq]
    by_cases same : request.correlationId = id
    · subst same
      simp
    · simpa [same] using before.counted id

theorem Booked.filter_seq_eq {state : State} (booked : state.Booked) {live : LiveRequest}
    (inside : live ∈ state.live) :
    (state.live.filter fun other => other.seq = live.seq) = [live] := by
  have alone : ∀ other ∈ state.live.filter fun other => other.seq = live.seq, other = live := by
    intro other kept
    obtain ⟨otherInside, sameSeq⟩ := List.mem_filter.mp kept
    exact booked.eq_of_seq_eq otherInside inside (by simpa using sameSeq)
  have nodup : (state.live.filter fun other => other.seq = live.seq).Nodup :=
    (List.Nodup.of_map _ booked.distinct).filter _
  have here : live ∈ state.live.filter fun other => other.seq = live.seq :=
    List.mem_filter.mpr ⟨inside, by simp⟩
  generalize state.live.filter (fun other => other.seq = live.seq) = rest at alone nodup here
  match rest, nodup, alone, here with
  | [only], _, alone, _ => rw [alone only List.mem_cons_self]
  | first :: second :: more, nodup, alone, _ =>
    have same : first = second := by
      rw [alone first List.mem_cons_self,
        alone second (List.mem_cons_of_mem _ List.mem_cons_self)]
    exact absurd nodup (by simp [same])

theorem Booked.liveCount_release {state : State} (booked : state.Booked) {live : LiveRequest}
    (inside : live ∈ state.live) (id : String) :
    (state.release live).liveCount id =
      state.liveCount id - if live.request.correlationId = id then 1 else 0 := by
  have split := List.countP_eq_countP_filter_add state.live
    (fun other => decide (other.request.correlationId = id))
    (fun other => decide (other.seq = live.seq))
  rw [booked.filter_seq_eq inside, List.countP_singleton] at split
  simp only [liveCount, State.release]
  rw [split]
  simp

theorem Booked.release {state : State} (booked : state.Booked) {live : LiveRequest}
    (inside : live ∈ state.live) : (state.release live).Booked := by
  have entry : ∀ id seq, (state.release live).inFlight.get? id = some seq →
      state.inFlight.get? id = some seq ∧ seq ≠ live.seq := by
    intro id seq found
    simp only [State.release] at found
    split at found
    · rename_i owns
      rw [Dict.get?_erase] at found
      split at found
      · cases found
      · rename_i different
        refine ⟨found, fun same => different ?_⟩
        obtain ⟨other, otherInside, sameSeq, sameId⟩ := booked.entryLive id seq found
        rw [← sameId, booked.eq_of_seq_eq otherInside inside (sameSeq.trans same)]
    · rename_i replaced
      refine ⟨found, fun same => replaced ?_⟩
      obtain ⟨other, otherInside, sameSeq, sameId⟩ := booked.entryLive id seq found
      rw [booked.eq_of_seq_eq otherInside inside (sameSeq.trans same)] at sameId
      rw [sameId, found, same]
  have kept : ∀ other ∈ state.live, other.seq ≠ live.seq → other ∈ (state.release live).live :=
    fun other otherInside different => List.mem_filter.mpr ⟨otherInside, by simpa using different⟩
  refine ⟨?_, ?_, ?_, ?_, ?_⟩
  · exact booked.distinct.sublist (List.filter_sublist.map _)
  · intro other remains
    exact booked.issued other (List.mem_filter.mp remains).1
  · intro id seq found
    obtain ⟨before, different⟩ := entry id seq found
    obtain ⟨other, otherInside, sameSeq, sameId⟩ := booked.entryLive id seq before
    exact ⟨other, kept other otherInside (sameSeq ▸ different), sameSeq, sameId⟩
  · intro other remains
    obtain ⟨otherInside, different⟩ := List.mem_filter.mp remains
    refine (booked.ownsOrCancelled other otherInside).imp_left fun owns => ?_
    simp only [State.release]
    split
    · rename_i releasedOwns
      rw [Dict.get?_erase, if_neg, owns]
      intro same
      rw [same, owns] at releasedOwns
      exact absurd (Option.some.inj releasedOwns) (by simpa using different)
    · exact owns
  · intro id
    have recorder : (state.release live).recorder =
        state.recorder.finishRequest live.request.correlationId := rfl
    rw [booked.liveCount_release inside, recorder, Recorder.running_finishRequest,
      booked.runningCount_eq]
    by_cases same : live.request.correlationId = id
    · subst same
      simp
    · simpa [same] using booked.counted id

theorem Booked.stepSeq {state : State} (booked : state.Booked) (engine : Engine) (now : Timestamp)
    (seq : Nat) : (engine.stepSeq now state seq).1.Booked := by
  have applied : ∀ effects, (state.recorder.applyAll now effects).running =
      state.recorder.running := Recorder.applyAll_running now state.recorder
  rcases engine.stepSeq_cases now state seq with
    ⟨-, same⟩ | ⟨live, phase, effects, -, -, same⟩ | ⟨live, reply, effects, found, -, same⟩
  · rw [same]
    exact booked
  · rw [same]
    exact (booked.setPhase seq phase).withRecorder (applied effects)
  · rw [same]
    exact (booked.withRecorder (applied (effects ++ closing reply))).release (mem_of_find? found).1

theorem Booked.handle {state : State} (booked : state.Booked) (engine : Engine) (now : Timestamp)
    (event : Event) : (engine.handle now state event).1.Booked := by
  cases event with
  | start request => exact booked.start request
  | step seq => exact booked.stepSeq engine now seq
  | drop seq =>
    simp only [Engine.handle]
    split
    · rename_i live found
      exact booked.release (mem_of_find? found).1
    · exact booked
  | cancel id => exact booked.cancel id
  | shutdown => exact booked.shutdown
  | purge cutoff => exact booked.withRecorder (Recorder.purgeBefore_running state.recorder cutoff)

end State

theorem initial_booked (engine : Engine) : engine.initial.Booked where
  distinct := List.nodup_nil
  issued := fun live inside => by cases inside
  entryLive := fun id seq found => by cases found
  ownsOrCancelled := fun live inside => by cases inside
  counted := fun id => rfl

theorem run_booked (engine : Engine) (events : List (Timestamp × Event)) :
    (engine.run engine.initial events).Booked :=
  engine.run_preserves (fun now _ event booked => booked.handle engine now event)
    engine.initial_booked events

/-- In whatever order requests start, go on, end, are given up, cancelled or stopped: every entry of
the table is that of a live request; every live request owns the entry of its id or is cancelled, so
that at most one of each id goes on; and the recorder counts the live requests of each id. Hence
nothing is left once no request is live. -/
theorem run_accounts (engine : Engine) (events : List (Timestamp × Event)) :
    let state := engine.run engine.initial events
    (∀ id seq, state.inFlight.get? id = some seq →
      ∃ live ∈ state.live, live.request.correlationId = id ∧ live.seq = seq) ∧
    (∀ live ∈ state.live,
      state.inFlight.get? live.request.correlationId = some live.seq ∨ live.cancelled = true) ∧
    (∀ first ∈ state.live, ∀ second ∈ state.live,
      first.request.correlationId = second.request.correlationId →
      first.cancelled = false → second.cancelled = false → first = second) ∧
    (∀ id, state.recorder.running.get? id =
      if state.liveCount id = 0 then none else some (state.liveCount id)) ∧
    (state.live = [] → state.inFlight.size = 0 ∧
      ∀ id, (state.cancel id).2 = false ∧ state.recorder.isRunning id = false) := by
  intro state
  have booked : state.Booked := engine.run_booked events
  refine ⟨?_, booked.ownsOrCancelled, ?_, booked.counted, ?_⟩
  · intro id seq found
    obtain ⟨live, inside, sameSeq, sameId⟩ := booked.entryLive id seq found
    exact ⟨live, inside, sameId, sameSeq⟩
  · intro first firstInside second secondInside sameId firstGoes secondGoes
    have firstOwns := (booked.ownsOrCancelled first firstInside).resolve_right (by simp [firstGoes])
    have secondOwns :=
      (booked.ownsOrCancelled second secondInside).resolve_right (by simp [secondGoes])
    rw [sameId, secondOwns] at firstOwns
    exact booked.eq_of_seq_eq firstInside secondInside (Option.some.inj firstOwns).symm
  · intro nobody
    have noEntry : ∀ id, state.inFlight.get? id = none := by
      intro id
      cases found : state.inFlight.get? id with
      | none => rfl
      | some seq =>
        obtain ⟨live, inside, -⟩ := booked.entryLive id seq found
        rw [nobody] at inside
        cases inside
    refine ⟨?_, fun id => ⟨?_, ?_⟩⟩
    · have empty : state.inFlight = Dict.empty := Dict.ext_get? noEntry
      rw [empty]
      rfl
    · rw [State.cancel, noEntry]
    · rw [Recorder.isRunning, Dict.contains, booked.counted, State.liveCount, nobody]
      rfl

end Engine

end Switchyard
