import Switchyard.Proofs.Engine.Answers
set_option autoImplicit false

/-! How requests of an engine are answered. Main statement: what the walk of a request comes to and
the strategy decide between the graph, the legacy path, an apology and an error; the lenient
strategies agree on everything and never answer with an error. -/
namespace Switchyard

/-- The walk of a request comes to a result by some steps, each with its time and with whether the
request has been cancelled by then. -/
def Controller.WalksTo (controller : Controller) (request : Request)
    (told : List (Timestamp × Bool)) (result : Except WalkError Context) : Prop :=
  (Walk.start controller.root (Controller.prepare request)).advanceAll controller.executor told =
    .ended result

/-- The request has come as far as its walk comes by some steps. -/
def Phase.CameBy (controller : Controller) (request : Request) (told : List (Timestamp × Bool)) :
    Phase → Prop
  | .arrived => told = []
  | .walking stage => (Walk.start controller.root (Controller.prepare request)).advanceAll
      controller.executor told = stage

theorem Phase.CameBy.stage_eq {controller : Controller} {request : Request}
    {told : List (Timestamp × Bool)} {phase : Phase} (came : phase.CameBy controller request told) :
    (Walk.start controller.root (Controller.prepare request)).advanceAll controller.executor told =
      phase.stage controller request := by
  cases phase with
  | arrived =>
    obtain rfl : told = [] := came
    rfl
  | walking stage => exact came

namespace Engine

section Answered

variable {engine : Engine} {live : LiveRequest} {now : Timestamp} {reply : Reply}

theorem legacyCalls_closing (reply : Reply) : legacyCalls (closing reply) = [] := by
  cases reply <;> rfl

/-! Requests that walk. -/

theorem legacyCalls_effectsAlong (executor : Executor) (stage : Stage)
    (told : List (Timestamp × Bool)) : legacyCalls (stage.effectsAlong executor told) = [] := by
  induction told generalizing stage with
  | nil => rfl
  | cons moment later ih =>
    rw [Stage.effectsAlong, legacyCalls_append, legacyCalls_advance, ih, List.append_nil]

theorem soloSteps_disposes (enabled : engine.controller.enabled = true)
    {told : List (Timestamp × Bool)}
    (came : live.phase.CameBy engine.controller live.request told)
    {events : List (Timestamp × Event)}
    (answered : Answered (engine.soloSteps live events) live.seq reply) :
    ∃ whole result, engine.controller.WalksTo live.request whole result ∧
      engine.controller.Disposes live.request result reply
        (legacyCalls (effectsOf (engine.soloSteps live events))) ∧
      (live.cancelled = false → Calm told →
        (∀ event ∈ events, event.2.cancels live.request.correlationId = false) → Calm whole) := by
  obtain ⟨further, result, now, along, calm⟩ := soloSteps_walk enabled answered
  have opens : legacyCalls (live.phase.opening live.request) = [] := by
    cases live.phase with
    | arrived => exact legacyCalls_warnings _
    | walking stage => rfl
  have calls : legacyCalls (effectsOf (engine.soloSteps live events)) =
      legacyCalls (engine.controller.conclude now live.request result).2 := by
    simp only [along.does, legacyCalls_append, opens, legacyCalls_effectsAlong,
      legacyCalls_closing, List.nil_append, List.append_nil]
  refine ⟨told ++ further, result, ?_, ?_, fun goesOn before spared => ?_⟩
  · have ended := along.ended
    rw [← came.stage_eq] at ended
    exact (Stage.advanceAll_append _ _ told further).trans ended
  · rw [calls, along.replies]
    exact engine.controller.conclude_disposes now live.request result
  · exact List.forall_mem_append.mpr ⟨before, calm goesOn spared⟩

/-! Requests of a disabled engine. -/

theorem soloSteps_disabled (disabled : engine.controller.enabled = false)
    (arrived : live.phase = .arrived) {events : List (Timestamp × Event)}
    (answered : Answered (engine.soloSteps live events) live.seq reply) :
    legacyCalls (effectsOf (engine.soloSteps live events)) = [live.request.legacyCall] ∧
      ∃ time, reply = (engine.controller.answerByLegacy time live.request).1 := by
  obtain ⟨time, replies, does⟩ := soloSteps_answerByLegacy disabled arrived answered
  rw [does, legacyCalls_append, legacyCalls_closing, List.append_nil]
  exact ⟨engine.controller.legacyCalls_answerByLegacy time live.request, time, replies⟩

end Answered

/-! The lenient strategies. -/

/-- The engine with another strategy. -/
def withStrategy (engine : Engine) (strategy : Strategy) : Engine where
  settings := { engine.settings with strategy := strategy }
  controller := { engine.controller with strategy := strategy }

section Lenient

variable (engine : Engine) (now : Timestamp)

theorem advance_lenient_alike (live : LiveRequest) :
    (∃ phase effects,
        (engine.withStrategy .graceful).advance now live = (.inr phase, effects) ∧
        (engine.withStrategy .hybrid).advance now live = (.inr phase, effects)) ∨
      ∃ first second : Reply × List Effect,
        (engine.withStrategy .graceful).advance now live = (.inl first.1, first.2) ∧
        (engine.withStrategy .hybrid).advance now live = (.inl second.1, second.2) ∧
        first.1 = second.1 := by
  obtain ⟨seq, request, cancelled, phase⟩ := live
  match phase with
  | .arrived =>
    by_cases enabled : engine.controller.enabled = true
    · exact Or.inl ⟨_, _, if_pos enabled, if_pos enabled⟩
    · have disabled := Bool.not_eq_true _ ▸ enabled
      exact Or.inr ⟨_, _, @advance_disabled (engine.withStrategy .graceful) _ now disabled rfl,
        @advance_disabled (engine.withStrategy .hybrid) _ now disabled rfl,
        engine.controller.answerByLegacy_lenient_alike now request⟩
  | .walking (.between walk) => exact Or.inl ⟨_, _, rfl, rfl⟩
  | .walking (.inside walk id run) => exact Or.inl ⟨_, _, rfl, rfl⟩
  | .walking (.ended result) =>
    exact Or.inr ⟨(engine.withStrategy .graceful).controller.conclude now request result,
      (engine.withStrategy .hybrid).controller.conclude now request result, rfl, rfl,
      engine.controller.conclude_lenient_alike now request result⟩

theorem handle_lenient_alike (state : State) (event : Event) :
    ((engine.withStrategy .graceful).handle now state event).1 =
        ((engine.withStrategy .hybrid).handle now state event).1 ∧
      ((engine.withStrategy .graceful).handle now state event).2.ended =
        ((engine.withStrategy .hybrid).handle now state event).2.ended := by
  cases event with
  | step seq =>
    simp only [handle, stepSeq]
    cases state.find? seq with
    | none => exact ⟨rfl, rfl⟩
    | some live =>
      rcases engine.advance_lenient_alike now live with
        ⟨phase, effects, first, second⟩ | ⟨⟨reply, left⟩, ⟨_, right⟩, first, second, rfl⟩
      · simp only [first, second]
        exact ⟨trivial, trivial⟩
      · -- What the strategies notice differs, but nothing of it reaches the recorder.
        simp only [first, second, Recorder.applyAll_of_quiet now _ (quiet_of_ended first),
          Recorder.applyAll_of_quiet now _ (quiet_of_ended second)]
        exact ⟨trivial, trivial⟩
  | _ => exact ⟨rfl, rfl⟩

theorem run_lenient_alike (state : State) (events : List (Timestamp × Event)) :
    (engine.withStrategy .graceful).run state events =
      (engine.withStrategy .hybrid).run state events := by
  induction events generalizing state with
  | nil => rfl
  | cons event later ih =>
    rw [run_cons, run_cons, (engine.handle_lenient_alike event.1 state event.2).1, ih]

theorem stepsOf_lenient_alike (seq : Nat) (state : State) (events : List (Timestamp × Event)) :
    ((engine.withStrategy .graceful).stepsOf seq state events).map (·.ended) =
      ((engine.withStrategy .hybrid).stepsOf seq state events).map (·.ended) := by
  induction events generalizing state with
  | nil => rfl
  | cons event later ih =>
    obtain ⟨now, event⟩ := event
    obtain ⟨sameState, sameEnd⟩ := engine.handle_lenient_alike now state event
    simp only [stepsOf, sameState]
    split
    · rw [List.map_cons, List.map_cons, sameEnd, ih]
    · exact ih _

variable {engine now}

theorem reply_of_lenient (lenient : engine.controller.strategy ≠ .strict) {live : LiveRequest}
    {reply : Reply} {effects : List Effect}
    (ended : engine.advance now live = (.inl reply, effects)) : ∃ answer, reply = .ok answer := by
  rcases ended_cases ended with ⟨-, -, answered⟩ | ⟨result, -, concluded⟩
  · have replies := engine.controller.answerByLegacy_lenient now live.request lenient
    rw [answered] at replies
    exact replies
  · have replies := engine.controller.conclude_lenient now live.request lenient result
    rw [concluded] at replies
    exact replies

theorem ended_of_lenient (lenient : engine.controller.strategy ≠ .strict) {state : State}
    {event : Event} {seq : Nat} {reply : Reply}
    (ended : (engine.handle now state event).2.ended = some (seq, reply)) :
    ∃ answer, reply = .ok answer := by
  cases event with
  | step stepped =>
    change (engine.stepSeq now state stepped).2.ended = _ at ended
    rcases engine.stepSeq_cases now state stepped with
      ⟨-, same⟩ | ⟨live, phase, effects, -, -, same⟩ | ⟨live, last, effects, -, atEnd, same⟩
    · rw [same] at ended
      cases ended
    · rw [same] at ended
      cases ended
    · rw [same] at ended
      rw [← (Prod.mk.inj (Option.some.inj ended)).2]
      exact reply_of_lenient lenient atEnd
  | drop dropped =>
    simp only [handle] at ended
    split at ended <;> cases ended
  | _ => cases ended

theorem answered_lenient (lenient : engine.controller.strategy ≠ .strict) {seq owner : Nat}
    {state : State} {events : List (Timestamp × Event)} {reply : Reply}
    (answered : Answered (engine.stepsOf seq state events) owner reply) :
    ∃ answer, reply = .ok answer := by
  induction events generalizing state with
  | nil => exact absurd answered not_answered_nil
  | cons event later ih =>
    obtain ⟨now, event⟩ := event
    simp only [stepsOf] at answered
    split at answered
    · obtain ⟨step, inside, ended⟩ := answered
      rcases List.mem_cons.mp inside with rfl | rest
      · exact ended_of_lenient lenient ended
      · exact ih ⟨step, rest, ended⟩
    · exact ih answered

end Lenient

/-! A disabled engine leaves no trace. -/

/-- No request walks, and nothing is held under any id. -/
structure Traceless (state : State) : Prop where
  booked : state.Booked
  arrived : ∀ live ∈ state.live, live.phase = .arrived
  nothing : ∀ id, state.recorder.held id = (none, none)

theorem finishRequest_held_of_nothing {recorder : Recorder}
    (nothing : ∀ id, recorder.held id = (none, none)) (ended id : String) :
    (recorder.finishRequest ended).held id = (none, none) := by
  by_cases own : ended = id
  · subst own
    rw [Recorder.finishRequest_held_self, nothing]
  · rw [Recorder.finishRequest_held_of_ne _ own (Or.inr (nothing id)), nothing]

theorem Traceless.handle {state : State} (traceless : Traceless state) {engine : Engine}
    (disabled : engine.controller.enabled = false) (now : Timestamp) (event : Event) :
    Traceless (engine.handle now state event).1 := by
  have nothing := traceless.nothing
  have stays : ∀ {live : LiveRequest} {phase : Phase} {effects : List Effect},
      live ∈ state.live → engine.advance now live ≠ (.inr phase, effects) := by
    intro live phase effects inside went
    rw [advance_disabled disabled (traceless.arrived live inside)] at went
    cases congrArg Prod.fst went
  refine ⟨traceless.booked.handle engine now event, fun live inside => ?_, fun id => ?_⟩
  · rcases traceless.booked.mem_handle engine now event inside with
      ⟨request, -, rfl⟩ | ⟨before, beforeInside, continues⟩
    · rfl
    · by_cases isStep : event = .step before.seq
      · obtain ⟨effects, went⟩ := continues.goes isStep
        exact absurd went (stays beforeInside)
      · exact (continues.waits isStep).trans (traceless.arrived before beforeInside)
  · cases event with
    | start request =>
      change ((state.cancel request.correlationId).1.recorder.beginRequest _).held id = _
      rw [State.cancel_recorder]
      exact nothing id
    | step seq =>
      change (engine.stepSeq now state seq).1.recorder.held id = _
      rcases engine.stepSeq_cases now state seq with
        ⟨-, same⟩ | ⟨live, phase, effects, found, went, -⟩ | ⟨live, reply, effects, -, ended, same⟩
      · rw [same]
        exact nothing id
      · exact absurd went (stays (State.mem_of_find? found).1)
      · rw [same, Recorder.applyAll_of_quiet now state.recorder (quiet_of_ended ended)]
        exact finishRequest_held_of_nothing nothing _ id
    | drop seq =>
      simp only [Engine.handle]
      split
      · exact finishRequest_held_of_nothing nothing _ id
      · exact nothing id
    | cancel cancelled =>
      change (state.cancel cancelled).1.recorder.held id = _
      rw [State.cancel_recorder]
      exact nothing id
    | shutdown => exact nothing id
    | purge cutoff =>
      have undecided : state.recorder.decision? id = none := congrArg Prod.snd (nothing id)
      have purged := state.recorder.purgeBefore_purged cutoff
      exact (purged.held_of_spared (Or.inr (nothing id)) (by simp [undecided])).trans (nothing id)

theorem traces_of_disabled {engine : Engine} (disabled : engine.controller.enabled = false)
    (events : List (Timestamp × Event)) (id : String) :
    (engine.run engine.initial events).recorder.traces id = [] := by
  have fresh : Traceless engine.initial :=
    ⟨engine.initial_booked, fun _ inside => (List.not_mem_nil inside).elim, fun _ => rfl⟩
  have traceless : Traceless (engine.run engine.initial events) :=
    engine.run_preserves (fun now _ event traceless => traceless.handle disabled now event) fresh
      events
  have logs : (engine.run engine.initial events).recorder.logs.get? id = none :=
    congrArg Prod.fst (traceless.nothing id)
  rw [Recorder.traces, logs]
  rfl

/-- How requests are answered. What a walk from the root with the prepared context comes to is
disposed of by the strategy, whether the walk is run at once or step by step among other requests
and whoever cancels it meanwhile; a request that takes its steps and is not given up is answered; a
disabled engine asks the legacy path alone. Graceful and hybrid come to the same states and the same
replies in every run and never answer with an error, and a disabled engine records nothing. -/
theorem disposition_law (engine : Engine) :
    (∀ cancelled now request, engine.controller.enabled = true →
      engine.controller.Disposes request
        (engine.controller.executor.walk cancelled now engine.controller.root
          (Controller.prepare request)).1
        (engine.controller.run cancelled now request).1
        (legacyCalls (engine.controller.run cancelled now request).2)) ∧
    (∀ before startedAt request during,
      let seq := (engine.run engine.initial before).nextSeq
      let steps := engine.stepsOf seq
        (engine.run engine.initial (before ++ [(startedAt, .start request)])) during
      (∀ reply, Answered steps seq reply →
        (engine.controller.enabled = true → ∃ told result,
          engine.controller.WalksTo request told result ∧
          engine.controller.Disposes request result reply (legacyCalls (effectsOf steps)) ∧
          ((∀ event ∈ before, event.2 ≠ .shutdown) →
            (∀ event ∈ during, event.2.cancels request.correlationId = false) →
            ∀ now, result = (engine.controller.executor.walk false now engine.controller.root
              (Controller.prepare request)).1)) ∧
        (engine.controller.enabled = false →
          legacyCalls (effectsOf steps) = [request.legacyCall] ∧ ∀ cancelled now,
            reply.untimed = (engine.controller.run cancelled now request).1.untimed)) ∧
      ((∀ event ∈ during, event.2 ≠ .drop seq) →
        engine.maxSteps ≤ (stepTimes seq during).length → ∃ reply, Answered steps seq reply)) ∧
    (∀ state events,
      (engine.withStrategy .graceful).run state events =
          (engine.withStrategy .hybrid).run state events ∧
        ∀ seq, ((engine.withStrategy .graceful).stepsOf seq state events).map (·.ended) =
          ((engine.withStrategy .hybrid).stepsOf seq state events).map (·.ended)) ∧
    (engine.controller.strategy ≠ .strict → ∀ seq state events reply,
      Answered (engine.stepsOf seq state events) seq reply → ∃ answer, reply = .ok answer) ∧
    (engine.controller.enabled = false → ∀ events id,
      (engine.run engine.initial events).recorder.traces id = []) := by
  refine ⟨fun cancelled now request enabled =>
      engine.controller.run_disposes now request enabled cancelled, ?_,
    fun state events => ⟨engine.run_lenient_alike state events,
      fun seq => engine.stepsOf_lenient_alike seq state events⟩,
    fun lenient seq state events reply answered => answered_lenient lenient answered,
    traces_of_disabled⟩
  intro before startedAt request during seq steps
  let live : LiveRequest :=
    ⟨seq, request, (engine.run engine.initial before).stopped, .arrived⟩
  have solo : steps = engine.soloSteps live during :=
    engine.stepsOf_start before startedAt request during
  rw [solo]
  refine ⟨fun reply answered => ⟨fun enabled => ?_, fun disabled => ?_⟩, fun kept enough => ?_⟩
  · obtain ⟨told, result, walks, disposes, calm⟩ :=
      @soloSteps_disposes engine live reply enabled [] rfl during answered
    refine ⟨told, result, walks, disposes, fun running spared now => ?_⟩
    have goesOn : live.cancelled = false := engine.run_stopped engine.initial running
    have uncancelled := calm goesOn (List.forall_mem_nil _) spared
    exact (Stage.finish_of_advanceAll _ now uncancelled walks).symm
  · obtain ⟨calls, time, rfl⟩ := @soloSteps_disabled engine live reply disabled rfl during answered
    refine ⟨calls, fun cancelled now => ?_⟩
    rw [Controller.run, if_neg (by rw [disabled]; exact Bool.false_ne_true)]
    exact (engine.controller.answerByLegacy_alike time now request).outcome
  · have left : live.phase.stepsLeft engine.controller.executor.registry <
        (stepTimes live.seq during).length := by
      change 2 * engine.controller.executor.registry.decision.size + 2 <
        (stepTimes seq during).length
      unfold maxSteps at enough
      omega
    exact soloSteps_end live kept left

end Engine

end Switchyard
