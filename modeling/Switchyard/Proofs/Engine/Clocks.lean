import Switchyard.Proofs.Engine.Calls
import Switchyard.Proofs.Engine.Isolation
import Switchyard.Proofs.Trace.Room
set_option autoImplicit false

/-! The same events by two clocks. What happens does not depend on the clock, and neither does what
the recorder holds in the end, as long as there is room for everything. Main statements:
`Engine.run_clocks` and `Engine.Comparable.held`. -/
namespace Switchyard

theorem Effect.calls_untimed (now : Timestamp) (effects : List Effect) :
    (calls now effects).map Recorder.Call.untimed = calls default (effects.map untimed) := by
  rw [calls, calls, List.map_filterMap, List.filterMap_map]
  congr 1
  funext effect
  cases effect <;> rfl

def LiveRequest.untimed (live : LiveRequest) : LiveRequest :=
  { live with phase := live.phase.untimed }

namespace Engine

def Happening.untimed (happening : Happening) : Happening where
  effects := happening.effects.map Effect.untimed
  ended := happening.ended.map fun ended => (ended.1, ended.2.untimed)

/-- An event with the times at which two clocks see it. -/
structure Moment where
  first : Timestamp
  second : Timestamp
  event : Event

def Moment.byFirst (moment : Moment) : Timestamp × Event := (moment.first, moment.event)

def Moment.bySecond (moment : Moment) : Timestamp × Event := (moment.second, moment.event)

namespace State

/-- The same requests have come equally far in two states, apart from the times. -/
structure Alike (one two : State) : Prop where
  live : one.live.map LiveRequest.untimed = two.live.map LiveRequest.untimed
  inFlight : one.inFlight = two.inFlight
  nextSeq : one.nextSeq = two.nextSeq
  stopped : one.stopped = two.stopped

theorem find?_untimed (state : State) (seq : Nat) :
    (state.find? seq).map LiveRequest.untimed =
      (state.live.map LiveRequest.untimed).find? fun live => live.seq = seq := by
  rw [List.find?_map]
  rfl

section Alike

variable {one two : State}

theorem Alike.find?_cases (alike : one.Alike two) (seq : Nat) :
    (one.find? seq = none ∧ two.find? seq = none) ∨
      ∃ live other, one.find? seq = some live ∧ two.find? seq = some other ∧
        live.untimed = other.untimed := by
  have found : (one.find? seq).map LiveRequest.untimed =
      (two.find? seq).map LiveRequest.untimed := by
    rw [find?_untimed, find?_untimed, alike.live]
  cases here : one.find? seq with
  | none =>
    rw [here] at found
    exact Or.inl ⟨rfl, Option.map_eq_none_iff.mp found.symm⟩
  | some live =>
    rw [here] at found
    obtain ⟨other, there, same⟩ := Option.map_eq_some_iff.mp found.symm
    exact Or.inr ⟨live, other, rfl, there, same.symm⟩

theorem Alike.mapLive (alike : one.Alike two)
    {change otherChange : LiveRequest → LiveRequest} (untimedChange : LiveRequest → LiveRequest)
    (same : ∀ live, (change live).untimed = untimedChange live.untimed)
    (otherSame : ∀ live, (otherChange live).untimed = untimedChange live.untimed) :
    (one.mapLive change).Alike (two.mapLive otherChange) := by
  refine ⟨?_, alike.inFlight, alike.nextSeq, alike.stopped⟩
  have pushed : ∀ {list : List LiveRequest} {step : LiveRequest → LiveRequest},
      (∀ live, (step live).untimed = untimedChange live.untimed) →
      (list.map step).map LiveRequest.untimed =
        (list.map LiveRequest.untimed).map untimedChange := by
    intro list step commutes
    rw [List.map_map, List.map_map]
    exact List.map_congr_left fun live _ => commutes live
  change (one.live.map change).map _ = (two.live.map otherChange).map _
  rw [pushed same, pushed otherSame, alike.live]

theorem Alike.setPhase (alike : one.Alike two) (seq : Nat) {phase other : Phase}
    (same : phase.untimed = other.untimed) :
    (one.setPhase seq phase).Alike (two.setPhase seq other) := by
  apply alike.mapLive fun live =>
    if live.seq = seq then { live with phase := phase.untimed } else live
  · intro live
    by_cases stepped : live.seq = seq
    · rw [if_pos stepped]
      exact (if_pos stepped).symm
    · rw [if_neg stepped]
      exact (if_neg stepped).symm
  · intro live
    rw [same]
    by_cases stepped : live.seq = seq
    · rw [if_pos stepped]
      exact (if_pos stepped).symm
    · rw [if_neg stepped]
      exact (if_neg stepped).symm

theorem Alike.cancelSeq (alike : one.Alike two) (seq : Nat) :
    (one.cancelSeq seq).Alike (two.cancelSeq seq) := by
  have commutes : ∀ live : LiveRequest,
      (if live.seq = seq then { live with cancelled := true } else live).untimed =
        if live.untimed.seq = seq then { live.untimed with cancelled := true }
        else live.untimed := by
    intro live
    by_cases meant : live.seq = seq
    · rw [if_pos meant]
      exact (if_pos meant).symm
    · rw [if_neg meant]
      exact (if_neg meant).symm
  exact alike.mapLive (fun live => if live.seq = seq then { live with cancelled := true } else live)
    commutes commutes

theorem Alike.cancel (alike : one.Alike two) (id : String) :
    (one.cancel id).1.Alike (two.cancel id).1 ∧ (one.cancel id).2 = (two.cancel id).2 := by
  unfold State.cancel
  rw [alike.inFlight]
  cases two.inFlight.get? id with
  | none => exact ⟨alike, rfl⟩
  | some seq => exact ⟨alike.cancelSeq seq, rfl⟩

theorem Alike.start (alike : one.Alike two) (request : Request) :
    (one.start request).1.Alike (two.start request).1 ∧
      (one.start request).2 = (two.start request).2 := by
  obtain ⟨cancelled, replaced⟩ := alike.cancel request.correlationId
  have entry : LiveRequest.mk one.nextSeq request one.stopped .arrived =
      ⟨two.nextSeq, request, two.stopped, .arrived⟩ := by
    rw [alike.nextSeq, alike.stopped]
  refine ⟨⟨?_, ?_, ?_, cancelled.stopped⟩, ?_⟩
  · change ((one.cancel request.correlationId).1.live ++ [_]).map _ =
      ((two.cancel request.correlationId).1.live ++ [_]).map _
    rw [List.map_append, List.map_append, cancelled.live, entry]
  · change (one.cancel request.correlationId).1.inFlight.insert request.correlationId one.nextSeq =
      (two.cancel request.correlationId).1.inFlight.insert request.correlationId two.nextSeq
    rw [cancelled.inFlight, alike.nextSeq]
  · change (one.cancel request.correlationId).1.nextSeq + 1 =
      (two.cancel request.correlationId).1.nextSeq + 1
    rw [cancelled.nextSeq]
  · change (if (one.cancel request.correlationId).2 then _ else _) =
      if (two.cancel request.correlationId).2 then _ else _
    rw [replaced]

theorem Alike.shutdown (alike : one.Alike two) : one.shutdown.Alike two.shutdown := by
  have cancelled : (one.mapLive fun live => { live with cancelled := true }).Alike
      (two.mapLive fun live => { live with cancelled := true }) :=
    alike.mapLive (fun live => { live with cancelled := true }) (fun _ => rfl) fun _ => rfl
  exact ⟨cancelled.live, alike.inFlight, alike.nextSeq, rfl⟩

theorem Alike.release (alike : one.Alike two) {live other : LiveRequest}
    (same : live.untimed = other.untimed) : (one.release live).Alike (two.release other) := by
  have seq : live.seq = other.seq := congrArg (·.seq) same
  have request : live.request = other.request := congrArg (·.request) same
  refine ⟨?_, ?_, alike.nextSeq, alike.stopped⟩
  · have kept : ∀ (list : List LiveRequest) (left : Nat),
        (list.filter fun live => live.seq ≠ left).map LiveRequest.untimed =
          (list.map LiveRequest.untimed).filter fun live => live.seq ≠ left := by
      intro list left
      rw [List.filter_map]
      rfl
    change (one.live.filter _).map _ = (two.live.filter _).map _
    rw [kept, kept, alike.live, seq]
  · simp only [State.release, alike.inFlight, seq, request]

end Alike

end State

section Steps

variable (engine : Engine) (first second : Timestamp) {one two : State}

theorem closing_of_untimed {reply other : Reply} (same : reply.untimed = other.untimed) :
    closing reply = closing other := by
  cases reply with
  | ok result =>
    cases other with
    | ok otherResult => rfl
    | error error => cases same
  | error error =>
    cases other with
    | ok otherResult => cases same
    | error otherError =>
      have sameError : error = otherError := Except.error.inj same
      rw [sameError]

theorem advance_clocks {live other : LiveRequest} (same : live.untimed = other.untimed) :
    ∃ effects otherEffects : List Effect,
      effects.map Effect.untimed = otherEffects.map Effect.untimed ∧
      ((∃ reply otherReply : Reply, engine.advance first live = (.inl reply, effects) ∧
          engine.advance second other = (.inl otherReply, otherEffects) ∧
          reply.untimed = otherReply.untimed) ∨
        ∃ phase otherPhase : Phase, engine.advance first live = (.inr phase, effects) ∧
          engine.advance second other = (.inr otherPhase, otherEffects) ∧
          phase.untimed = otherPhase.untimed) := by
  obtain ⟨sameOutcome, sameEffects⟩ := engine.advance_alike first second
    (congrArg (·.request) same : live.request = other.request) (congrArg (·.cancelled) same)
    (congrArg (·.phase) same)
  refine ⟨(engine.advance first live).2, (engine.advance second other).2, sameEffects, ?_⟩
  generalize engine.advance first live = left at sameOutcome ⊢
  generalize engine.advance second other = right at sameOutcome ⊢
  obtain ⟨outcome, effects⟩ := left
  obtain ⟨otherOutcome, otherEffects⟩ := right
  have sameUntimed : untimedOutcome outcome = untimedOutcome otherOutcome := sameOutcome
  cases outcome with
  | inl reply =>
    cases otherOutcome with
    | inl otherReply => exact Or.inl ⟨reply, otherReply, rfl, rfl, Sum.inl.inj sameUntimed⟩
    | inr otherPhase => cases sameUntimed
  | inr phase =>
    cases otherOutcome with
    | inl otherReply => cases sameUntimed
    | inr otherPhase => exact Or.inr ⟨phase, otherPhase, rfl, rfl, Sum.inr.inj sameUntimed⟩

/-- Two states, what happened on the way there, and what the recorders were called for, are alike. -/
structure Alike (first second : State × Happening) (calls otherCalls : List Recorder.Call) :
    Prop where
  state : first.1.Alike second.1
  happening : first.2.untimed = second.2.untimed
  calls : calls.map Recorder.Call.untimed = otherCalls.map Recorder.Call.untimed

theorem stepSeq_clocks (alike : one.Alike two) (seq : Nat) :
    Alike (engine.stepSeq first one seq) (engine.stepSeq second two seq)
      (engine.calls first one (.step seq)) (engine.calls second two (.step seq)) := by
  rcases alike.find?_cases seq with ⟨here, there⟩ | ⟨live, other, here, there, same⟩
  · simp only [stepSeq, calls, here, there]
    exact ⟨alike, rfl, rfl⟩
  · obtain ⟨effects, otherEffects, sameEffects,
      ⟨reply, otherReply, left, right, sameReply⟩ | ⟨phase, otherPhase, left, right, samePhase⟩⟩ :=
        engine.advance_clocks first second same
    · have request : live.request = other.request := congrArg (·.request) same
      have closed := closing_of_untimed sameReply
      rw [stepSeq_ended here left, stepSeq_ended there right, calls_ended here left,
        calls_ended there right, request]
      refine ⟨State.Alike.release ?_ same, ?_, rfl⟩
      · exact ⟨alike.live, alike.inFlight, alike.nextSeq, alike.stopped⟩
      · simp only [Happening.untimed, List.map_append, sameEffects, closed, Option.map_some,
          sameReply]
    · have went := alike.setPhase seq samePhase
      rw [stepSeq_went here left, stepSeq_went there right, calls_went here left,
        calls_went there right]
      refine ⟨⟨went.live, went.inFlight, went.nextSeq, went.stopped⟩, ?_, ?_⟩
      · simp only [Happening.untimed, sameEffects]
      · rw [Effect.calls_untimed, Effect.calls_untimed, sameEffects]

theorem handle_clocks (alike : one.Alike two) (event : Event) :
    Alike (engine.handle first one event) (engine.handle second two event)
      (engine.calls first one event) (engine.calls second two event) := by
  cases event with
  | start request =>
    obtain ⟨started, effects⟩ := alike.start request
    refine ⟨started, ?_, rfl⟩
    simp only [handle, effects]
  | step seq => exact engine.stepSeq_clocks first second alike seq
  | drop seq =>
    rcases alike.find?_cases seq with ⟨here, there⟩ | ⟨live, other, here, there, same⟩
    · simp only [handle, calls, here, there]
      exact ⟨alike, rfl, rfl⟩
    · have request : live.request = other.request := congrArg (·.request) same
      simp only [handle, calls, here, there, request]
      exact ⟨alike.release same, rfl, rfl⟩
  | cancel id => exact ⟨(alike.cancel id).1, rfl, rfl⟩
  | shutdown => exact ⟨alike.shutdown, rfl, rfl⟩
  | purge cutoff =>
    exact ⟨⟨alike.live, alike.inFlight, alike.nextSeq, alike.stopped⟩, rfl, rfl⟩

end Steps

section Runs

variable (engine : Engine) {one two : State}

/-- What happens is the same by both clocks, and so is what the recorder is called for. -/
theorem run_clocks (alike : one.Alike two) (moments : List Moment) :
    (engine.happenings one (moments.map Moment.byFirst)).map Happening.untimed =
        (engine.happenings two (moments.map Moment.bySecond)).map Happening.untimed ∧
      (engine.callsAlong one (moments.map Moment.byFirst)).map Recorder.Call.untimed =
        (engine.callsAlong two (moments.map Moment.bySecond)).map Recorder.Call.untimed := by
  induction moments generalizing one two with
  | nil => exact ⟨rfl, rfl⟩
  | cons moment later ih =>
    have stepped : Alike (engine.handle moment.byFirst.1 one moment.byFirst.2)
        (engine.handle moment.bySecond.1 two moment.bySecond.2)
        (engine.calls moment.byFirst.1 one moment.byFirst.2)
        (engine.calls moment.bySecond.1 two moment.bySecond.2) :=
      engine.handle_clocks moment.first moment.second alike moment.event
    obtain ⟨state, happening, calls⟩ := stepped
    obtain ⟨happenings, callsLater⟩ := ih state
    constructor
    · rw [List.map_cons, List.map_cons, happenings_cons, happenings_cons, List.map_cons,
        List.map_cons, happenings]
      exact congrArg (· :: _) happening
    · rw [List.map_cons, List.map_cons, callsAlong_cons, callsAlong_cons, List.map_append,
        List.map_append, callsLater]
      exact congrArg (· ++ _) calls

theorem activations_run_clocks (moments : List Moment) (nodeId : String) :
    ((engine.run engine.initial (moments.map Moment.byFirst)).recorder.activationsOf nodeId).map
        NodeActivation.untimed =
      ((engine.run engine.initial (moments.map Moment.bySecond)).recorder.activationsOf nodeId).map
        NodeActivation.untimed := by
  have left : ∀ events,
      (engine.run engine.initial events).recorder.untimed.activations =
        (engine.initial.recorder.untimed.run
          ((engine.callsAlong engine.initial events).map Recorder.Call.untimed)).activations := by
    intro events
    rw [run_recorder]
    exact Recorder.run_activations_untimed rfl _
  have alike : engine.initial.Alike engine.initial := ⟨rfl, rfl, rfl, rfl⟩
  have same :
      (engine.run engine.initial (moments.map Moment.byFirst)).recorder.untimed.activations =
        (engine.run engine.initial (moments.map Moment.bySecond)).recorder.untimed.activations := by
    rw [left, left, (engine.run_clocks alike moments).2]
  rw [← Recorder.activationsOf_untimed, ← Recorder.activationsOf_untimed, Recorder.activationsOf,
    Recorder.activationsOf, same]

end Runs

/-! Room for everything. -/

/-- The id of the request that an event starts. -/
def Event.started? : Event → Option String
  | .start request => some request.correlationId
  | _ => none

/-- There is room for a trace of every request that is started, and nothing is purged. -/
structure Roomy (engine : Engine) (events : List Event) : Prop where
  room : (events.filterMap Event.started?).dedup.length ≤ engine.initial.recorder.maxRequests
  unpurged : ∀ cutoff, .purge cutoff ∉ events

namespace State

variable {ids : List String} {state : State}

/-- All live requests are of these ids. -/
def Within (ids : List String) (state : State) : Prop :=
  ∀ live ∈ state.live, live.request.correlationId ∈ ids

theorem Within.handle (within : state.Within ids) (booked : state.Booked) (engine : Engine)
    (now : Timestamp) {event : Event} (known : ∀ id ∈ event.started?, id ∈ ids) :
    (engine.handle now state event).1.Within ids := by
  intro live inside
  rcases booked.mem_handle engine now event inside with
    ⟨request, rfl, rfl⟩ | ⟨before, beforeInside, continues⟩
  · exact known request.correlationId rfl
  · rw [continues.request]
    exact within before beforeInside

theorem Within.calls_fit (within : state.Within ids) (orderly : state.Orderly) (engine : Engine)
    (now : Timestamp) {event : Event} (unpurged : ∀ cutoff, event ≠ .purge cutoff) :
    ∀ call ∈ engine.calls now state event, call.Fits ids := by
  intro call inside
  have origin := engine.origin_of_calls inside
  cases call with
  | record time made =>
    obtain ⟨live, liveInside, -, stage, walking, recorded⟩ := origin
    have own := orderly.own live liveInside
    rw [walking] at own
    obtain ⟨-, isOf⟩ := Stage.of_advance engine.controller.executor live.cancelled now own
    have sameId : made.correlationId = live.request.correlationId := isOf _ recorded
    change made.correlationId ∈ ids
    rw [sameId]
    exact within live liveInside
  | purgeBefore cutoff => exact unpurged cutoff origin
  | beginRequest | recordActivation | recordDecision | finishRequest => trivial

theorem Within.callsAlong_fit (within : state.Within ids) (orderly : state.Orderly)
    (engine : Engine) {events : List (Timestamp × Event)}
    (known : ∀ event ∈ events, ∀ id ∈ event.2.started?, id ∈ ids)
    (unpurged : ∀ event ∈ events, ∀ cutoff, event.2 ≠ .purge cutoff) :
    ∀ call ∈ engine.callsAlong state events, call.Fits ids := by
  induction events generalizing state with
  | nil => exact List.forall_mem_nil _
  | cons event later ih =>
    obtain ⟨starts, knownLater⟩ := List.forall_mem_cons.mp known
    obtain ⟨keeps, unpurgedLater⟩ := List.forall_mem_cons.mp unpurged
    rw [callsAlong_cons]
    refine List.forall_mem_append.mpr ⟨within.calls_fit orderly engine event.1 keeps, ?_⟩
    exact ih (within.handle orderly.booked engine event.1 starts)
      (orderly.handle engine event.1 event.2) knownLater unpurgedLater

end State

/-- With room for everything a recorder holds the same in the end by both clocks, times aside. -/
theorem untimed_run_clocks {engine : Engine} {moments : List Moment}
    (roomy : engine.Roomy (moments.map Moment.event)) :
    (engine.run engine.initial (moments.map Moment.byFirst)).recorder.untimed =
      (engine.run engine.initial (moments.map Moment.bySecond)).recorder.untimed := by
  let ids := (moments.map Moment.event).filterMap Event.started?
  have nobody : engine.initial.Within ids := fun _ inside => (List.not_mem_nil inside).elim
  have empty : engine.initial.recorder.Roomy ids := by
    refine ⟨fun id present => ?_, roomy.room⟩
    cases present
  have fit : ∀ clock : Moment → Timestamp × Event, (∀ moment, (clock moment).2 = moment.event) →
      ∀ call ∈ engine.callsAlong engine.initial (moments.map clock), call.Fits ids := by
    intro clock same
    apply nobody.callsAlong_fit (engine.run_orderly []) engine
    · intro event inside id started
      obtain ⟨moment, here, rfl⟩ := List.mem_map.mp inside
      rw [same] at started
      exact List.mem_filterMap.mpr ⟨moment.event, List.mem_map_of_mem here, started⟩
    · intro event inside cutoff purges
      obtain ⟨moment, here, rfl⟩ := List.mem_map.mp inside
      rw [same] at purges
      exact roomy.unpurged cutoff (purges ▸ List.mem_map_of_mem here)
  have alike : engine.initial.Alike engine.initial := ⟨rfl, rfl, rfl, rfl⟩
  rw [run_recorder, run_recorder, empty.run_untimed (fit Moment.byFirst fun _ => rfl),
    empty.run_untimed (fit Moment.bySecond fun _ => rfl), (engine.run_clocks alike moments).2]

/-- Nothing sets two clocks apart: they tell the same times, or there is room for everything. -/
def Comparable (engine : Engine) (moments : List Moment) : Prop :=
  (∀ moment ∈ moments, moment.first = moment.second) ∨
    engine.Roomy (moments.map Moment.event)

theorem Comparable.held {engine : Engine} {moments : List Moment}
    (comparable : engine.Comparable moments) (id : String) :
    ((engine.run engine.initial (moments.map Moment.byFirst)).recorder.traces id).map
        TraceRecord.untimed =
      ((engine.run engine.initial (moments.map Moment.bySecond)).recorder.traces id).map
        TraceRecord.untimed ∧
    (engine.run engine.initial (moments.map Moment.byFirst)).recorder.decision? id =
      (engine.run engine.initial (moments.map Moment.bySecond)).recorder.decision? id := by
  rcases comparable with oneClock | roomy
  · have sameEvents : moments.map Moment.byFirst = moments.map Moment.bySecond := by
      apply List.map_congr_left
      intro moment inside
      exact Prod.ext (oneClock moment inside) rfl
    rw [sameEvents]
    exact ⟨rfl, rfl⟩
  · have same := untimed_run_clocks roomy
    rw [← Recorder.traces_untimed, ← Recorder.traces_untimed, same]
    exact ⟨rfl, congrArg (·.decision? id) same⟩

end Engine

end Switchyard
