import Switchyard.Proofs.Engine.Frame
set_option autoImplicit false

/-! One request among many. What becomes of it depends on its own steps and on who stops it, and on
nothing else: a run of the engine, looked at through one request, is a run of that request alone. -/
namespace Switchyard.Engine

/-- The event cancels the requests of this correlation id. -/
def Event.stops (id : String) : Event → Bool
  | .cancel cancelled => cancelled = id
  | .shutdown => true
  | _ => false

/-- The event cancels the requests of this correlation id that are live: it stops them, or a newer
request takes their place. -/
def Event.cancels (id : String) : Event → Bool
  | .start request => request.correlationId = id
  | event => event.stops id

def reachedBy (event : Event) (live : LiveRequest) : LiveRequest :=
  { live with cancelled := live.cancelled || event.cancels live.request.correlationId }

theorem reachedBy_eq (event : Event) (live : LiveRequest) :
    reachedBy event live = if event.cancels live.request.correlationId then
      { live with cancelled := true } else live := by
  obtain ⟨seq, request, cancelled, phase⟩ := live
  unfold reachedBy
  cases event.cancels request.correlationId
  · simp
  · simp

theorem reachedBy_of_cancelled (event : Event) {live : LiveRequest}
    (cancelled : live.cancelled = true) : reachedBy event live = live := by
  rw [reachedBy, cancelled, Bool.true_or, ← cancelled]

theorem Event.cancels_eq_stops {event : Event} {id : String} (other : ¬ event.Starts id) :
    event.cancels id = event.stops id := by
  cases event with
  | start request => exact decide_eq_false other
  | _ => rfl

/-- What a request has of its own. -/
structure Own where
  live : LiveRequest
  trace : List TraceRecord
  decision : Option CapabilityDecision

namespace Own

def id (own : Own) : String := own.live.request.correlationId

def cancel (own : Own) : Own := { own with live := { own.live with cancelled := true } }

/-- The request after a step that has not ended it. -/
def went (own : Own) (phase : Phase) (effects : List Effect) : Own where
  live := { own.live with phase := phase }
  trace := (effects.filterMap Effect.record?).foldl Recorder.appended own.trace
  decision := Recorder.latestDecision own.decision effects

/-- One step of the request, unless the step ends it. -/
def step (engine : Engine) (now : Timestamp) (own : Own) : Option Own :=
  match engine.advance now own.live with
  | (.inr phase, effects) => some (own.went phase effects)
  | (.inl _, _) => none

/-- What an event makes of the request, unless the event ends it. -/
def respond (engine : Engine) (now : Timestamp) (own : Own) : Event → Option Own
  | .step seq => if seq = own.live.seq then own.step engine now else some own
  | .drop seq => if seq = own.live.seq then none else some own
  | event => some (if event.stops own.id then own.cancel else own)

/-- What becomes of the request by some events, unless one of them ends it. -/
def follow (engine : Engine) (own : Own) (events : List (Timestamp × Event)) : Option Own :=
  events.foldlM (fun own event => own.respond engine event.1 event.2) own

/-- The reply that the next step of the request ends it with, if it does. -/
def ending? (engine : Engine) (now : Timestamp) (own : Own) : Option Reply :=
  match engine.advance now own.live with
  | (.inr _, _) => none
  | (.inl reply, _) => some reply

/-- There is no decision without a trace. -/
def Tied (own : Own) : Prop := own.decision.isSome = true → own.trace ≠ []

theorem step_of_went (engine : Engine) (now : Timestamp) (own : Own) {phase : Phase}
    {effects : List Effect} (advanced : engine.advance now own.live = (.inr phase, effects)) :
    own.step engine now = some (own.went phase effects) := by
  rw [step, advanced]

theorem went_of_step {engine : Engine} {now : Timestamp} {own after : Own}
    (stepped : own.step engine now = some after) :
    ∃ phase effects, engine.advance now own.live = (.inr phase, effects) ∧
      after = own.went phase effects := by
  unfold step at stepped
  split at stepped
  · rename_i phase effects advanced
    exact ⟨phase, effects, advanced, (Option.some.inj stepped).symm⟩
  · cases stepped

end Own

theorem foldl_appended_ne_nil {records trace : List TraceRecord}
    (some : records ≠ [] ∨ trace ≠ []) : records.foldl Recorder.appended trace ≠ [] := by
  induction records generalizing trace with
  | nil => exact some.resolve_left fun notNil => notNil rfl
  | cons record rest ih =>
    exact ih (Or.inr (List.append_ne_nil_of_right_ne_nil _ (List.cons_ne_nil _ _)))

theorem Own.Tied.went {own : Own} (tied : own.Tied) {phase : Phase} {effects : List Effect}
    (leaves : (∀ effect ∈ effects, effect.Quiet) ∨ effects.filterMap Effect.record? ≠ []) :
    (own.went phase effects).Tied := by
  intro decided
  rcases leaves with quiet | recorded
  · simp only [Own.went, Recorder.latestDecision, Effect.filterMap_decision?_of_quiet quiet,
      Effect.filterMap_record?_of_quiet quiet] at decided ⊢
    exact tied decided
  · exact foldl_appended_ne_nil (Or.inl recorded)

/-- A request that an event does not end takes a step, or may be cancelled. -/
theorem Own.respond_cases {engine : Engine} {now : Timestamp} {own after : Own} {event : Event}
    (responds : own.respond engine now event = some after) :
    (event = .step own.live.seq ∧ own.step engine now = some after) ∨
      (event ≠ .step own.live.seq ∧ event ≠ .drop own.live.seq ∧
        after = if event.stops own.id then own.cancel else own) := by
  cases event with
  | step seq =>
    simp only [Own.respond] at responds
    split at responds
    · rename_i same
      exact Or.inl ⟨by rw [same], responds⟩
    · rename_i different
      refine Or.inr ⟨fun same => different (Event.step.inj same), Event.noConfusion, ?_⟩
      exact (Option.some.inj responds).symm
  | drop seq =>
    simp only [Own.respond] at responds
    split at responds
    · cases responds
    · rename_i different
      refine Or.inr ⟨Event.noConfusion, fun same => different (Event.drop.inj same), ?_⟩
      exact (Option.some.inj responds).symm
  | _ => exact Or.inr ⟨Event.noConfusion, Event.noConfusion, (Option.some.inj responds).symm⟩

theorem Own.respond_eq_none {engine : Engine} {now : Timestamp} {own : Own} {event : Event}
    (atEnd : own.respond engine now event = none) :
    (event = .step own.live.seq ∧ own.step engine now = none) ∨ event = .drop own.live.seq := by
  cases event with
  | step seq =>
    simp only [Own.respond] at atEnd
    split at atEnd
    · rename_i same
      exact Or.inl ⟨by rw [same], atEnd⟩
    · cases atEnd
  | drop seq =>
    simp only [Own.respond] at atEnd
    split at atEnd
    · rename_i same
      exact Or.inr (by rw [same])
    · cases atEnd
  | _ => cases atEnd

theorem Own.Tied.respond {engine : Engine} {now : Timestamp} {own after : Own} {event : Event}
    (tied : own.Tied) (walksOwn : own.live.phase.Of own.id)
    (responds : own.respond engine now event = some after) : after.Tied := by
  rcases Own.respond_cases responds with ⟨-, stepped⟩ | ⟨-, -, rfl⟩
  · obtain ⟨phase, effects, advanced, rfl⟩ := Own.went_of_step stepped
    obtain ⟨-, -, leaves⟩ := own_of_went walksOwn advanced
    exact tied.went leaves
  · split <;> exact tied

theorem Own.follow_preserves {engine : Engine} {invariant : Own → Prop}
    (preserved : ∀ own now event after, invariant own →
      own.respond engine now event = some after → invariant after)
    {own after : Own} {events : List (Timestamp × Event)} (holds : invariant own)
    (followed : own.follow engine events = some after) : invariant after := by
  induction events generalizing own with
  | nil =>
    rw [← Option.some.inj followed]
    exact holds
  | cons event later ih =>
    obtain ⟨next, responds, rest⟩ := Option.bind_eq_some_iff.mp followed
    exact ih (preserved own event.1 event.2 next holds responds) rest

theorem Own.follow_cons (engine : Engine) (own : Own) (event : Timestamp × Event)
    (later : List (Timestamp × Event)) :
    own.follow engine (event :: later) =
      (own.respond engine event.1 event.2).bind fun own => own.follow engine later :=
  List.foldlM_cons

namespace State

/-- What the request with a sequence number has of its own, if it is live. -/
def own? (state : State) (seq : Nat) : Option Own :=
  (state.find? seq).map fun live =>
    ⟨live, state.recorder.traces live.request.correlationId,
      state.recorder.decision? live.request.correlationId⟩

theorem own?_of_find? {state : State} {seq : Nat} {live : LiveRequest}
    (found : state.find? seq = some live) :
    state.own? seq = some ⟨live, state.recorder.traces live.request.correlationId,
      state.recorder.decision? live.request.correlationId⟩ := by
  rw [own?, found]
  rfl

/-- An event that is not the request's own may cancel it and does nothing else to it. -/
theorem Booked.find?_handle {state : State} (booked : state.Booked) (engine : Engine)
    (now : Timestamp) {event : Event} {seq : Nat} (issued : seq < state.nextSeq)
    (notStep : event ≠ .step seq) (notDrop : event ≠ .drop seq) :
    (engine.handle now state event).1.find? seq = (state.find? seq).map (reachedBy event) := by
  have unchanged : (state.find? seq).map (fun live => live) = state.find? seq := Option.map_id'
  rw [show reachedBy event = _ from funext (reachedBy_eq event)]
  cases event with
  | start request =>
    change (state.start request).1.find? seq = _
    rw [find?_start state request issued, booked.find?_cancel]
    simp only [Event.cancels, decide_eq_true_eq, @eq_comm _ request.correlationId]
  | step stepped =>
    have different : seq ≠ stepped := fun same => notStep (by rw [same])
    refine Eq.trans ?_ unchanged.symm
    change (engine.stepSeq now state stepped).1.find? seq = _
    rcases engine.stepSeq_cases now state stepped with
      ⟨-, same⟩ | ⟨live, phase, effects, -, -, same⟩ | ⟨live, reply, effects, found, -, same⟩
    · rw [same]
    · rw [same]
      change (state.setPhase stepped phase).find? seq = _
      rw [find?_setPhase]
      cases found : state.find? seq with
      | none => rfl
      | some live =>
        obtain ⟨-, sameSeq⟩ := mem_of_find? found
        exact congrArg some (if_neg (by rw [sameSeq]; exact different))
    · rw [same, find?_release, if_neg (by rw [(mem_of_find? found).2]; exact different)]
      rfl
  | drop dropped =>
    have different : seq ≠ dropped := fun same => notDrop (by rw [same])
    refine Eq.trans ?_ unchanged.symm
    simp only [Engine.handle]
    split
    · rename_i live found
      rw [find?_release, if_neg (by rw [(mem_of_find? found).2]; exact different)]
    · rfl
  | cancel cancelled =>
    change (state.cancel cancelled).1.find? seq = _
    rw [booked.find?_cancel]
    simp only [Event.cancels, Event.stops, decide_eq_true_eq, @eq_comm _ cancelled]
  | shutdown =>
    change (state.mapLive fun live => { live with cancelled := true }).find? seq = _
    refine (find?_mapLive state ?_ seq).trans rfl
    intro live
    rfl
  | purge cutoff => exact unchanged.symm

/-- The request with the sequence number, once it was issued, is the only one of the id. -/
structure Alone (state : State) (seq : Nat) (id : String) : Prop where
  orderly : state.Orderly
  issued : seq < state.nextSeq
  only : ∀ live ∈ state.live, live.seq = seq ↔ live.request.correlationId = id
  tied : ∀ own, state.own? seq = some own → own.Tied

section Alone

variable {state : State} {seq : Nat} {id : String}

theorem Alone.find?_handle (alone : state.Alone seq id) (engine : Engine) (now : Timestamp)
    {event : Event} (other : ¬ event.Starts id) (notStep : event ≠ .step seq)
    (notDrop : event ≠ .drop seq) :
    (engine.handle now state event).1.find? seq = (state.find? seq).map fun live =>
      if event.stops live.request.correlationId then { live with cancelled := true } else live := by
  rw [alone.orderly.booked.find?_handle engine now alone.issued notStep notDrop]
  cases found : state.find? seq with
  | none => rfl
  | some live =>
    obtain ⟨inside, sameSeq⟩ := mem_of_find? found
    have sameId := (alone.only live inside).mp sameSeq
    rw [Option.map_some, Option.map_some, reachedBy_eq, Event.cancels_eq_stops (sameId ▸ other)]

theorem Alone.foreign (alone : state.Alone seq id) {event : Event} (notStep : event ≠ .step seq)
    (notDrop : event ≠ .drop seq) : state.Foreign id event := by
  intro live inside sameId
  rw [(alone.only live inside).mpr sameId]
  exact ⟨notStep, notDrop⟩

theorem Alone.held_handle (alone : state.Alone seq id) (engine : Engine) (now : Timestamp)
    {event : Event} (notStep : event ≠ .step seq) (notDrop : event ≠ .drop seq)
    {live : LiveRequest} (found : state.find? seq = some live) :
    (engine.handle now state event).1.recorder.held live.request.correlationId =
      state.recorder.held live.request.correlationId := by
  obtain ⟨inside, sameSeq⟩ := mem_of_find? found
  have sameId := (alone.only live inside).mp sameSeq
  have running := alone.orderly.booked.isRunning inside
  have foreign := alone.foreign notStep notDrop
  rw [← sameId] at foreign
  exact alone.orderly.held_handle engine now foreign (Or.inl running)
    (alone.tied _ (own?_of_find? found))

/-- A step of its own ends a request with the reply that it would get by itself, and keeps its trace
and its decision; or it takes the request as far as it would come by itself. -/
theorem Alone.stepSeq_own (alone : state.Alone seq id) (engine : Engine) (now : Timestamp)
    {own : Own} (here : state.own? seq = some own) :
    (∃ reply, own.ending? engine now = some reply ∧ own.step engine now = none ∧
        (engine.stepSeq now state seq).2.ended = some (seq, reply) ∧
        (engine.stepSeq now state seq).1.own? seq = none ∧
        (engine.stepSeq now state seq).1.recorder.traces own.id = own.trace ∧
        (engine.stepSeq now state seq).1.recorder.decision? own.id = own.decision) ∨
      (∃ after, own.step engine now = some after ∧
        (engine.stepSeq now state seq).2.ended = none ∧
        (engine.stepSeq now state seq).1.own? seq = some after) := by
  obtain ⟨live, foundLive, rfl⟩ := Option.map_eq_some_iff.mp here
  obtain ⟨inside, sameSeq⟩ := mem_of_find? foundLive
  rcases engine.stepSeq_cases now state seq with
    ⟨found, -⟩ | ⟨other, phase, effects, found, went, same⟩ |
      ⟨other, reply, effects, found, atEnd, same⟩
  · rw [found] at foundLive
    cases foundLive
  · obtain rfl : other = live := Option.some.inj (found.symm.trans foundLive)
    obtain ⟨-, isOf, -⟩ := own_of_went (alone.orderly.own other inside) went
    have after : (engine.stepSeq now state seq).1.find? seq =
        some { other with phase := phase } := by
      rw [find?_stepSeq_self, found, Option.bind_some, went]
    have recorder : (engine.stepSeq now state seq).1.recorder =
        state.recorder.applyAll now effects := by
      rw [same]
    refine Or.inr ⟨_, Own.step_of_went engine now _ went, by rw [same], ?_⟩
    rw [own?_of_find? after, recorder]
    simp only [Own.went]
    rw [Recorder.traces_applyAll now state.recorder isOf,
      Recorder.decision?_applyAll now state.recorder isOf]
  · obtain rfl : other = live := Option.some.inj (found.symm.trans foundLive)
    have held : (engine.stepSeq now state seq).1.recorder.held other.request.correlationId =
        state.recorder.held other.request.correlationId := by
      rw [same]
      refine (Recorder.finishRequest_held_self _ _).trans ?_
      rw [Recorder.applyAll_of_quiet now state.recorder (quiet_of_ended atEnd)]
    refine Or.inl ⟨reply, by rw [Own.ending?, atEnd], by rw [Own.step, atEnd], by rw [same],
      ?_, Recorder.traces_of_held held, Recorder.decision?_of_held held⟩
    rw [same, own?, find?_release, if_pos sameSeq.symm]
    rfl

theorem own?_seq {own : Own} (here : state.own? seq = some own) : own.live.seq = seq := by
  obtain ⟨live, found, rfl⟩ := Option.map_eq_some_iff.mp here
  exact (mem_of_find? found).2

theorem Alone.own?_handle (alone : state.Alone seq id) (engine : Engine) (now : Timestamp)
    {event : Event} (other : ¬ event.Starts id) :
    (engine.handle now state event).1.own? seq =
      (state.own? seq).bind fun own => own.respond engine now event := by
  by_cases step : event = .step seq
  · subst step
    change (engine.stepSeq now state seq).1.own? seq = _
    cases here : state.own? seq with
    | none =>
      have absent : state.find? seq = none := Option.map_eq_none_iff.mp here
      rw [stepSeq, absent]
      exact here
    | some own =>
      have responds : own.respond engine now (.step seq) = own.step engine now :=
        if_pos (own?_seq here).symm
      rw [Option.bind_some, responds]
      rcases alone.stepSeq_own engine now here with
        ⟨reply, -, stops, -, gone, -, -⟩ | ⟨after, went, -, next⟩
      · rw [gone, stops]
      · rw [next, went]
  · by_cases drop : event = .drop seq
    · subst drop
      cases found : state.find? seq with
      | none => simp [Engine.handle, own?, found]
      | some live =>
        have sameSeq := (mem_of_find? found).2
        simp only [Engine.handle, found]
        rw [own?_of_find? found, own?, find?_release, if_pos sameSeq.symm]
        exact (if_pos sameSeq.symm).symm
    · -- The event is somebody else's: the trace stays because the request is running.
      have after := alone.find?_handle engine now other step drop
      cases found : state.find? seq with
      | none =>
        rw [found] at after
        simp [own?, found, after]
      | some live =>
        rw [found] at after
        have held := alone.held_handle engine now step drop found
        have sameSeq := (mem_of_find? found).2
        have responds : ∀ own : Own, own.live = live → own.respond engine now event =
            some (if event.stops own.id then own.cancel else own) := by
          rintro own rfl
          cases event with
          | step stepped => exact if_neg fun same => step (by rw [same, sameSeq])
          | drop dropped => exact if_neg fun same => drop (by rw [same, sameSeq])
          | _ => rfl
        have traces := Recorder.traces_of_held held
        have decision := Recorder.decision?_of_held held
        rw [own?_of_find? found, Option.bind_some, responds _ rfl]
        by_cases stopped : event.stops live.request.correlationId = true
        · rw [Option.map_some, if_pos stopped] at after
          rw [own?_of_find? after]
          simp only [Own.id, stopped, if_true, Own.cancel, traces, decision]
        · rw [Option.map_some, if_neg stopped] at after
          rw [own?_of_find? after]
          simp [Own.id, stopped, traces, decision]

theorem Alone.handle (alone : state.Alone seq id) (engine : Engine) (now : Timestamp)
    {event : Event} (other : ¬ event.Starts id) :
    (engine.handle now state event).1.Alone seq id := by
  refine ⟨alone.orderly.handle engine now event,
    Nat.lt_of_lt_of_le alone.issued (nextSeq_le_handle engine now state event), ?_, ?_⟩
  · intro live inside
    rcases alone.orderly.booked.mem_handle engine now event inside with
      ⟨request, rfl, rfl⟩ | ⟨before, beforeInside, continues⟩
    · have issued := alone.issued
      constructor
      · intro same
        change state.nextSeq = seq at same
        omega
      · exact fun same => absurd same other
    · rw [continues.seq, continues.request]
      exact alone.only before beforeInside
  · intro after found
    rw [alone.own?_handle engine now other] at found
    obtain ⟨own, before, responds⟩ := Option.bind_eq_some_iff.mp found
    have walksOwn : own.live.phase.Of own.id := by
      obtain ⟨live, foundLive, rfl⟩ := Option.map_eq_some_iff.mp before
      exact alone.orderly.own live (mem_of_find? foundLive).1
    exact (alone.tied own before).respond walksOwn responds

/-- In a run a request comes as far as it comes by itself, whatever the others do meanwhile. -/
theorem Alone.own?_run (alone : state.Alone seq id) (engine : Engine)
    {events : List (Timestamp × Event)} (others : ∀ event ∈ events, ¬ event.2.Starts id) :
    (engine.run state events).own? seq =
      (state.own? seq).bind fun own => own.follow engine events := by
  induction events generalizing state with
  | nil => exact (Option.bind_fun_some (state.own? seq)).symm
  | cons event later ih =>
    obtain ⟨other, othersLater⟩ := List.forall_mem_cons.mp others
    rw [run_cons, ih (alone.handle engine event.1 other) othersLater,
      alone.own?_handle engine event.1 other, Option.bind_assoc]
    rfl

theorem Alone.run (alone : state.Alone seq id) (engine : Engine)
    {events : List (Timestamp × Event)} (others : ∀ event ∈ events, ¬ event.2.Starts id) :
    (engine.run state events).Alone seq id := by
  induction events generalizing state with
  | nil => exact alone
  | cons event later ih =>
    obtain ⟨other, othersLater⟩ := List.forall_mem_cons.mp others
    exact ih (alone.handle engine event.1 other) othersLater

end Alone

theorem Unused.start {state : State} {request : Request}
    (unused : state.Unused request.correlationId) (orderly : state.Orderly) (engine : Engine)
    (now : Timestamp) :
    (engine.handle now state (.start request)).1.Alone state.nextSeq request.correlationId ∧
      (engine.handle now state (.start request)).1.own? state.nextSeq =
        some ⟨⟨state.nextSeq, request, state.stopped, .arrived⟩, [], none⟩ := by
  have held : (engine.handle now state (.start request)).1.recorder.held request.correlationId =
      (none, none) := by
    change ((state.cancel request.correlationId).1.recorder.beginRequest _).held _ = _
    rw [cancel_recorder]
    exact unused.nothing
  have fresh : (engine.handle now state (.start request)).1.own? state.nextSeq =
      some ⟨⟨state.nextSeq, request, state.stopped, .arrived⟩, [], none⟩ := by
    refine (own?_of_find? (orderly.booked.find?_start_self request)).trans ?_
    have logs : (engine.handle now state (.start request)).1.recorder.logs.get?
        request.correlationId = none := congrArg Prod.fst held
    have traces : (engine.handle now state (.start request)).1.recorder.traces
        request.correlationId = [] := by
      rw [Recorder.traces, logs]
      rfl
    have decision : (engine.handle now state (.start request)).1.recorder.decision?
        request.correlationId = none := congrArg Prod.snd held
    change some (Own.mk _ ((engine.handle now state (.start request)).1.recorder.traces _)
      ((engine.handle now state (.start request)).1.recorder.decision? _)) = _
    rw [traces, decision]
  refine ⟨⟨orderly.handle engine now _, ?_, ?_, ?_⟩, fresh⟩
  · change state.nextSeq < (state.cancel request.correlationId).1.nextSeq + 1
    rw [cancel_nextSeq]
    exact Nat.lt_succ_self _
  · intro live inside
    rcases orderly.booked.mem_handle engine now (.start request) inside with
      ⟨started, equal, rfl⟩ | ⟨before, beforeInside, continues⟩
    · obtain rfl := Event.start.inj equal
      exact ⟨fun _ => rfl, fun _ => rfl⟩
    · have issued := orderly.booked.issued before beforeInside
      rw [continues.seq, continues.request]
      constructor
      · intro same
        omega
      · exact fun same => absurd same (unused.nobody before beforeInside)
  · intro own found
    rw [fresh] at found
    rw [← Option.some.inj found]
    intro decided
    cases decided

end State

/-- A request in a run: what happens before it is started and what happens from then on. Nobody else
uses its correlation id. -/
structure Stay (engine : Engine) where
  before : List (Timestamp × Event)
  startedAt : Timestamp
  request : Request
  during : List (Timestamp × Event)
  unused : ∀ event ∈ before, ¬ event.2.Starts request.correlationId
  others : ∀ event ∈ during, ¬ event.2.Starts request.correlationId

namespace Stay

variable {engine : Engine}

def earlier (stay : Stay engine) : State := engine.run engine.initial stay.before

def seq (stay : Stay engine) : Nat := stay.earlier.nextSeq

def state (stay : Stay engine) : State :=
  engine.run engine.initial (stay.before ++ (stay.startedAt, .start stay.request) :: stay.during)

def arrival (stay : Stay engine) : Own :=
  ⟨⟨stay.seq, stay.request, stay.earlier.stopped, .arrived⟩, [], none⟩

/-- In any run the request is alone with its id, and comes as far as it comes by itself. -/
theorem own?_state (stay : Stay engine) :
    stay.state.Alone stay.seq stay.request.correlationId ∧
      stay.state.own? stay.seq = stay.arrival.follow engine stay.during := by
  obtain ⟨alone, own⟩ :=
    (engine.run_unused stay.unused).start (engine.run_orderly stay.before) engine stay.startedAt
  have run : stay.state =
      engine.run (engine.handle stay.startedAt stay.earlier (.start stay.request)).1 stay.during :=
    engine.run_append engine.initial stay.before _
  rw [run]
  refine ⟨alone.run engine stay.others, (alone.own?_run engine stay.others).trans ?_⟩
  rw [own]
  rfl

/-- When the request ends, it ends as it would by itself, and its trace and its decision are still
there. -/
theorem ended (stay : Stay engine) {now : Timestamp} {seq : Nat} {reply : Reply}
    (isOver : (engine.stepSeq now stay.state stay.seq).2.ended = some (seq, reply)) :
    ∃ own, stay.state.own? stay.seq = some own ∧
      stay.arrival.follow engine stay.during = some own ∧ own.ending? engine now = some reply ∧
      (engine.stepSeq now stay.state stay.seq).1.recorder.traces own.id = own.trace ∧
      (engine.stepSeq now stay.state stay.seq).1.recorder.decision? own.id = own.decision := by
  obtain ⟨alone, followed⟩ := stay.own?_state
  cases here : stay.state.own? stay.seq with
  | none =>
    have absent : stay.state.find? stay.seq = none := Option.map_eq_none_iff.mp here
    rw [stepSeq, absent] at isOver
    cases isOver
  | some own =>
    rw [here] at followed
    rcases alone.stepSeq_own engine now here with
      ⟨made, ends, -, atEnd, -, traces, decision⟩ | ⟨after, -, atEnd, -⟩
    · rw [atEnd] at isOver
      obtain ⟨-, rfl⟩ := Prod.mk.inj (Option.some.inj isOver)
      exact ⟨own, rfl, followed.symm, ends, traces, decision⟩
    · rw [atEnd] at isOver
      cases isOver

end Stay

/-! A stay on a small engine that keeps one trace only, while another request comes and goes. -/

namespace Sample

def graph : GraphDefinition where
  root := "ready"
  decisionNodes := [
    { id := "ready", behavior := .condition "is_ready" none (some "wait") },
    { id := "wait", behavior := .action ⟨.configure, "patience", []⟩ }]

def registry : Registry where
  dataFlow := Dict.empty
  decision := Dict.ofList (graph.decisionNodes.map fun node => (node.id, node))
  root := graph.root
  hasCycle := false

def engine : Engine :=
  Engine.new { maxTracedRequests := 1 } registry Dict.empty Dict.empty
    (fun _ => { outcome := .error (.unavailable "nobody to ask") }) (fun _ => .ok "")

def request (id : String) : Request := ⟨id, .null, Dict.empty⟩

def stay : Stay engine where
  before := [(⟨0, false⟩, .start (request "first"))]
  startedAt := ⟨1, false⟩
  request := request "second"
  during := [(⟨2, false⟩, .step 1), (⟨3, false⟩, .step 0), (⟨4, false⟩, .step 1),
    (⟨5, false⟩, .purge ⟨6, false⟩), (⟨7, false⟩, .step 1), (⟨8, false⟩, .step 0),
    (⟨9, false⟩, .step 1)]
  unused := by simp [Event.Starts, request]
  others := by simp [Event.Starts]

end Sample

end Switchyard.Engine
