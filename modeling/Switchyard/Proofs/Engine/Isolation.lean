import Switchyard.Proofs.Engine.Projection
import Switchyard.Proofs.Execution.Untimed
set_option autoImplicit false

/-! A request among others is answered as if it were alone. By projection it comes as far as it
would by its own steps alone; and what those steps do is the same whenever they are taken. -/
namespace Switchyard

def Phase.untimed : Phase → Phase
  | .arrived => .arrived
  | .walking stage => .walking stage.untimed

/-- A bound on the steps that a request can still take without ending. -/
def Phase.stepsLeft (registry : Registry) : Phase → Nat
  | .arrived => 2 * registry.decision.size + 2
  | .walking stage => stage.stepsLeft registry

theorem Recorder.map_untimed_foldl_appended (records trace : List TraceRecord) :
    (records.foldl appended trace).map TraceRecord.untimed =
      trace.map TraceRecord.untimed ++ records.map TraceRecord.untimed := by
  induction records generalizing trace with
  | nil => simp
  | cons record rest ih =>
    obtain ⟨time, stored⟩ := afterLast_eq trace record
    have same : (afterLast trace record).untimed = record.untimed := by
      rw [stored]
      rfl
    rw [List.foldl_cons, ih]
    simp [appended, same]

namespace Engine

def untimedOutcome : Reply ⊕ Phase → Reply ⊕ Phase := Sum.map Reply.untimed Phase.untimed

theorem advance_alike (engine : Engine) (first second : Timestamp) {live other : LiveRequest}
    (sameRequest : live.request = other.request) (sameStop : live.cancelled = other.cancelled)
    (samePhase : live.phase.untimed = other.phase.untimed) :
    Alike untimedOutcome (engine.advance first live) (engine.advance second other) := by
  obtain ⟨seq, request, cancelled, phase⟩ := live
  obtain ⟨otherSeq, _, _, otherPhase⟩ := other
  subst sameRequest sameStop
  change phase.untimed = otherPhase.untimed at samePhase
  cases phase with
  | arrived =>
    cases otherPhase with
    | walking => cases samePhase
    | arrived =>
      unfold advance
      dsimp only
      split
      · exact ⟨rfl, rfl⟩
      · exact (engine.controller.answerByLegacy_alike first second _).map [] (congrArg Sum.inl)
  | walking stage =>
    cases otherPhase with
    | arrived => cases samePhase
    | walking otherStage =>
      have sameStage : stage.untimed = otherStage.untimed := Phase.walking.inj samePhase
      have walked := stage_advance_alike engine.controller.executor cancelled first second sameStage
      have sameOutcome := congrArg (fun left => (Sum.inr (Phase.walking left) : Reply ⊕ Phase))
        walked.outcome
      cases stage with
      | ended result =>
        cases otherStage with
        | ended _ =>
          cases sameStage
          exact (engine.controller.conclude_alike first second request result).map []
            (congrArg Sum.inl)
        | between => cases sameStage
        | inside => cases sameStage
      | between walk =>
        cases otherStage with
        | between _ => exact ⟨sameOutcome, walked.effects⟩
        | inside => cases sameStage
        | ended => cases sameStage
      | inside walk id run =>
        cases otherStage with
        | inside _ _ _ => exact ⟨sameOutcome, walked.effects⟩
        | between => cases sameStage
        | ended => cases sameStage

/-- Every step of a request that does not end it brings its end nearer. -/
theorem stepsLeft_advance_lt {engine : Engine} {now : Timestamp} {live : LiveRequest}
    {phase : Phase} {effects : List Effect}
    (went : engine.advance now live = (.inr phase, effects)) :
    phase.stepsLeft engine.controller.executor.registry <
      live.phase.stepsLeft engine.controller.executor.registry := by
  rcases went_cases went with ⟨-, arrived, rfl, -⟩ | ⟨stage, walking, goesOn, rfl, -⟩
  · rw [arrived]
    have bound : Stage.unvisited engine.controller.executor.registry [] ≤
        engine.controller.executor.registry.decision.size := by
      refine Nat.le_trans List.countP_le_length ?_
      exact Nat.le_of_eq (List.length_map _)
    simp only [Phase.stepsLeft, Walk.start, Stage.stepsLeft]
    omega
  · rw [walking]
    exact Stage.stepsLeft_advance_lt engine.controller.executor live.cancelled now stage goesOn

namespace Own

/-- Two requests are the same and have come equally far, apart from the times and from the sequence
numbers that they were given. -/
structure Matches (first second : Own) : Prop where
  request : first.live.request = second.live.request
  cancelled : first.live.cancelled = second.live.cancelled
  phase : first.live.phase.untimed = second.live.phase.untimed
  trace : first.trace.map TraceRecord.untimed = second.trace.map TraceRecord.untimed
  decision : first.decision = second.decision

theorem Matches.next {one two : Own} (same : one.Matches two) (engine : Engine)
    (first second : Timestamp) :
    (∃ reply other, one.ending? engine first = some reply ∧
        two.ending? engine second = some other ∧ reply.untimed = other.untimed ∧
        one.step engine first = none ∧ two.step engine second = none) ∨
      (∃ after other, one.step engine first = some after ∧ two.step engine second = some other ∧
        after.Matches other ∧ one.ending? engine first = none ∧
        two.ending? engine second = none) := by
  have advanced := engine.advance_alike first second same.request same.cancelled same.phase
  unfold ending? step
  generalize engine.advance first one.live = left at advanced
  generalize engine.advance second two.live = right at advanced
  obtain ⟨outcome, effects⟩ := left
  obtain ⟨otherOutcome, otherEffects⟩ := right
  have sameOutcome : untimedOutcome outcome = untimedOutcome otherOutcome := advanced.outcome
  have sameEffects : effects.map Effect.untimed = otherEffects.map Effect.untimed :=
    advanced.effects
  cases outcome with
  | inl reply =>
    cases otherOutcome with
    | inr phase => cases sameOutcome
    | inl other => exact Or.inl ⟨reply, other, rfl, rfl, Sum.inl.inj sameOutcome, rfl, rfl⟩
  | inr phase =>
    cases otherOutcome with
    | inl other => cases sameOutcome
    | inr otherPhase =>
      refine Or.inr ⟨_, _, rfl, rfl, ⟨same.request, same.cancelled, ?_, ?_, ?_⟩, rfl, rfl⟩
      · exact Sum.inr.inj sameOutcome
      · simp only [went, Recorder.map_untimed_foldl_appended, same.trace,
          ← Effect.filterMap_record?_untimed, sameEffects]
      · simp only [went, Recorder.latestDecision, same.decision]
        rw [← Effect.filterMap_decision?_untimed effects, sameEffects,
          Effect.filterMap_decision?_untimed]

/-- The request after steps of its own at some times, unless one of them ends it. -/
def stepAll (engine : Engine) (own : Own) (times : List Timestamp) : Option Own :=
  times.foldlM (fun own now => own.step engine now) own

theorem stepAll_cons (engine : Engine) (own : Own) (now : Timestamp) (later : List Timestamp) :
    own.stepAll engine (now :: later) =
      (own.step engine now).bind fun own => own.stepAll engine later :=
  List.foldlM_cons

theorem Matches.ends {engine : Engine} {one two lastOne lastTwo : Own} (same : one.Matches two)
    {times others : List Timestamp} {first second : Timestamp} {reply other : Reply}
    (oneCame : one.stepAll engine times = some lastOne)
    (twoCame : two.stepAll engine others = some lastTwo)
    (oneEnds : lastOne.ending? engine first = some reply)
    (twoEnds : lastTwo.ending? engine second = some other) :
    lastOne.Matches lastTwo ∧ reply.untimed = other.untimed := by
  -- If one has taken all its steps and the other has not, the one ends while the other goes on,
  -- which matching requests do not.
  induction times generalizing one two others with
  | nil =>
    obtain rfl := Option.some.inj oneCame
    cases others with
    | nil =>
      obtain rfl := Option.some.inj twoCame
      rcases same.next engine first second with
        ⟨_, _, oneReply, twoReply, sameReply, -, -⟩ | ⟨_, _, -, -, -, goesOn, -⟩
      · rw [oneEnds] at oneReply
        rw [twoEnds] at twoReply
        rw [Option.some.inj oneReply, Option.some.inj twoReply]
        exact ⟨same, sameReply⟩
      · rw [oneEnds] at goesOn
        cases goesOn
    | cons now later =>
      rcases same.next engine first now with
        ⟨_, _, -, -, -, -, atEnd⟩ | ⟨_, _, -, -, -, goesOn, -⟩
      · rw [stepAll_cons, atEnd] at twoCame
        cases twoCame
      · rw [oneEnds] at goesOn
        cases goesOn
  | cons now later ih =>
    rw [stepAll_cons] at oneCame
    obtain ⟨oneAfter, oneSteps, oneRest⟩ := Option.bind_eq_some_iff.mp oneCame
    cases others with
    | nil =>
      obtain rfl := Option.some.inj twoCame
      rcases same.next engine now second with
        ⟨_, _, -, -, -, atEnd, -⟩ | ⟨_, _, -, -, -, -, goesOn⟩
      · rw [oneSteps] at atEnd
        cases atEnd
      · rw [twoEnds] at goesOn
        cases goesOn
    | cons otherNow otherLater =>
      rw [stepAll_cons] at twoCame
      obtain ⟨twoAfter, twoSteps, twoRest⟩ := Option.bind_eq_some_iff.mp twoCame
      rcases same.next engine now otherNow with
        ⟨_, _, -, -, -, atEnd, -⟩ | ⟨_, _, oneNext, twoNext, sameNext, -, -⟩
      · rw [oneSteps] at atEnd
        cases atEnd
      · rw [oneSteps] at oneNext
        rw [twoSteps] at twoNext
        rw [← Option.some.inj oneNext, ← Option.some.inj twoNext] at sameNext
        exact ih sameNext oneRest twoRest

theorem same_of_stepAll {engine : Engine} {own after : Own} {times : List Timestamp}
    (came : own.stepAll engine times = some after) :
    after.live.seq = own.live.seq ∧ after.live.request = own.live.request := by
  induction times generalizing own with
  | nil =>
    obtain rfl := Option.some.inj came
    exact ⟨rfl, rfl⟩
  | cons now later ih =>
    rw [stepAll_cons] at came
    obtain ⟨next, stepped, rest⟩ := Option.bind_eq_some_iff.mp came
    obtain ⟨phase, effects, -, rfl⟩ := went_of_step stepped
    have same := ih rest
    exact same

/-! How long a request goes on. -/

def stepsLeft (engine : Engine) (own : Own) : Nat :=
  own.live.phase.stepsLeft engine.controller.executor.registry

theorem stepsLeft_step_lt {engine : Engine} {now : Timestamp} {own after : Own}
    (stepped : own.step engine now = some after) :
    after.stepsLeft engine < own.stepsLeft engine := by
  obtain ⟨phase, effects, advanced, rfl⟩ := went_of_step stepped
  exact stepsLeft_advance_lt advanced

theorem stepsLeft_stepAll {engine : Engine} {own after : Own} {times : List Timestamp}
    (came : own.stepAll engine times = some after) :
    after.stepsLeft engine + times.length ≤ own.stepsLeft engine := by
  induction times generalizing own with
  | nil =>
    obtain rfl := Option.some.inj came
    exact Nat.le_refl _
  | cons now later ih =>
    rw [stepAll_cons] at came
    obtain ⟨next, stepped, rest⟩ := Option.bind_eq_some_iff.mp came
    have nearer := stepsLeft_step_lt stepped
    have later := ih rest
    rw [List.length_cons]
    omega

end Own

/-! A request that nobody disturbs only takes its own steps. -/

def Event.isStepOf (seq : Nat) : Event → Bool
  | .step stepped => stepped = seq
  | _ => false

/-- The times at which a request takes its steps. -/
def stepTimes (seq : Nat) (events : List (Timestamp × Event)) : List Timestamp :=
  (events.filter fun event => event.2.isStepOf seq).map (·.1)

theorem Event.isStepOf_iff {event : Event} {seq : Nat} :
    event.isStepOf seq = true ↔ event = .step seq := by
  cases event <;> simp [isStepOf]

theorem Event.isStepOf_of_ne {event : Event} {seq : Nat} (notStep : event ≠ .step seq) :
    event.isStepOf seq = false :=
  Bool.eq_false_iff.mpr fun same => notStep (Event.isStepOf_iff.mp same)

theorem stepTimes_own (seq : Nat) (now : Timestamp) (later : List (Timestamp × Event)) :
    stepTimes seq ((now, .step seq) :: later) = now :: stepTimes seq later := by
  simp [stepTimes, Event.isStepOf]

theorem stepTimes_other {seq : Nat} {event : Event} (notStep : event ≠ .step seq)
    (now : Timestamp) (later : List (Timestamp × Event)) :
    stepTimes seq ((now, event) :: later) = stepTimes seq later := by
  simp [stepTimes, Event.isStepOf_of_ne notStep]

theorem Own.follow_undisturbed {engine : Engine} {own : Own} {events : List (Timestamp × Event)}
    (undisturbed : ∀ event ∈ events,
      event.2.stops own.id = false ∧ event.2 ≠ .drop own.live.seq) :
    own.follow engine events = own.stepAll engine (stepTimes own.live.seq events) := by
  induction events generalizing own with
  | nil => rfl
  | cons event later ih =>
    obtain ⟨now, event⟩ := event
    obtain ⟨⟨unstopped, kept⟩, undisturbedLater⟩ := List.forall_mem_cons.mp undisturbed
    rw [Own.follow_cons]
    by_cases ownStep : event = .step own.live.seq
    · subst ownStep
      rw [stepTimes_own, Own.stepAll_cons]
      simp only [Own.respond, if_true]
      cases stepped : own.step engine now with
      | none => rfl
      | some after =>
        obtain ⟨phase, effects, -, rfl⟩ := Own.went_of_step stepped
        exact ih undisturbedLater
    · have responds : own.respond engine now event = some own := by
        cases event with
        | step seq => exact if_neg fun same => ownStep (by rw [same])
        | drop seq => exact if_neg fun same => kept (by rw [same])
        | _ => exact congrArg some (if_neg (by simp [unstopped]))
      rw [responds, stepTimes_other ownStep]
      exact ih undisturbedLater

theorem Own.ended_of_follow_eq_none {engine : Engine} {own : Own}
    {events : List (Timestamp × Event)} (atEnd : own.follow engine events = none) :
    ∃ earlier event later last, events = earlier ++ event :: later ∧
      own.follow engine earlier = some last ∧ last.respond engine event.1 event.2 = none := by
  induction events generalizing own with
  | nil => cases atEnd
  | cons event later ih =>
    cases responds : own.respond engine event.1 event.2 with
    | none => exact ⟨[], event, later, own, rfl, rfl, responds⟩
    | some after =>
      rw [Own.follow_cons, responds] at atEnd
      obtain ⟨earlier, last, rest, own', rfl, came, ends⟩ := ih atEnd
      refine ⟨event :: earlier, last, rest, own', rfl, ?_, ends⟩
      rw [Own.follow_cons, responds]
      exact came

/-- By its steps alone a request comes to its end, the sooner the further it has come. -/
theorem runToEnd_spec (engine : Engine) (now : Timestamp) {fuel seq : Nat} {id : String}
    {state : State} {own : Own} (alone : state.Alone seq id) (here : state.own? seq = some own)
    (enough : own.stepsLeft engine < fuel) :
    ∃ final effects reply times last,
      engine.runToEnd now seq fuel state = (final, effects, some reply) ∧
      own.stepAll engine times = some last ∧ last.ending? engine now = some reply ∧
      final.recorder.traces own.id = last.trace ∧
      final.recorder.decision? own.id = last.decision := by
  induction fuel generalizing state own with
  | zero => omega
  | succ fuel ih =>
    unfold runToEnd
    rcases alone.stepSeq_own engine now here with
      ⟨reply, ends, -, atEnd, -, traces, decision⟩ | ⟨after, stepped, goesOn, next⟩
    · generalize engine.stepSeq now state seq = step at atEnd traces decision
      obtain ⟨final, effects, ended⟩ := step
      obtain rfl : ended = some (seq, reply) := atEnd
      exact ⟨final, effects, reply, [], own, rfl, rfl, ends, traces, decision⟩
    · have nearer := Own.stepsLeft_step_lt stepped
      have notStart : ¬ (Event.step seq).Starts id := fun starts => starts
      have still : (engine.stepSeq now state seq).1.Alone seq id :=
        alone.handle engine now notStart
      obtain ⟨final, effects, reply, times, last, came, steps, ends, traces, decision⟩ :=
        ih still next (by omega)
      obtain ⟨phase, left, -, rfl⟩ := Own.went_of_step stepped
      generalize engine.stepSeq now state seq = step at goesOn came
      obtain ⟨middle, first, ended⟩ := step
      obtain rfl : ended = none := goesOn
      refine ⟨final, first ++ effects, reply, now :: times, last, ?_, ?_, ends, traces, decision⟩
      · change (_, first ++ _, _) = _
        rw [came]
      · rw [Own.stepAll_cons, stepped]
        exact steps

theorem untimed_completeTraceability {recorder : Recorder} {id : String} {trace : List TraceRecord}
    {decision : Option CapabilityDecision} (traces : recorder.traces id = trace)
    (decided : recorder.decision? id = decision) :
    (recorder.completeTraceability id).untimed =
      ⟨id, trace.map TraceRecord.untimed, decision,
        (trace.map TraceRecord.untimed).filter fun record => record.nodeKind = .capability⟩ := by
  subst traces decided
  simp only [Recorder.completeTraceability, CompleteTraceability.untimed, List.filter_map]
  rfl

theorem handle_stopped (engine : Engine) (now : Timestamp) (state : State) {event : Event}
    (goesOn : event ≠ .shutdown) : (engine.handle now state event).1.stopped = state.stopped := by
  have cancelled : ∀ id, (state.cancel id).1.stopped = state.stopped := by
    intro id
    unfold State.cancel
    split <;> rfl
  cases event with
  | start request => exact cancelled request.correlationId
  | step seq =>
    change (engine.stepSeq now state seq).1.stopped = state.stopped
    rcases engine.stepSeq_cases now state seq with ⟨-, same⟩ | ⟨_, _, _, -, -, same⟩ |
      ⟨_, _, _, -, -, same⟩ <;> rw [same] <;> rfl
  | drop seq =>
    simp only [handle]
    split <;> rfl
  | cancel id => exact cancelled id
  | shutdown => exact absurd rfl goesOn
  | purge cutoff => rfl

theorem run_stopped (engine : Engine) (state : State) {events : List (Timestamp × Event)}
    (goesOn : ∀ event ∈ events, event.2 ≠ .shutdown) :
    (engine.run state events).stopped = state.stopped := by
  induction events generalizing state with
  | nil => rfl
  | cons event later ih =>
    obtain ⟨first, others⟩ := List.forall_mem_cons.mp goesOn
    exact (ih _ others).trans (engine.handle_stopped event.1 state first)

namespace Stay

variable {engine : Engine}

/-- The engine has not been shut down, and the request is neither cancelled nor given up. -/
structure Undisturbed (stay : Stay engine) : Prop where
  running : ∀ event ∈ stay.before, event.2 ≠ .shutdown
  unstopped : ∀ event ∈ stay.during, event.2.stops stay.request.correlationId = false
  kept : ∀ event ∈ stay.during, event.2 ≠ .drop stay.seq

/-- In the run the request ends with an answer, and the engine is in a state right after. -/
def EndsWith (stay : Stay engine) (answer : Reply) (final : State) : Prop :=
  ∃ earlier endedAt later, stay.during = earlier ++ (endedAt, .step stay.seq) :: later ∧
    let state := engine.run engine.initial
      (stay.before ++ (stay.startedAt, .start stay.request) :: earlier)
    (engine.handle endedAt state (.step stay.seq)).1 = final ∧
      (engine.handle endedAt state (.step stay.seq)).2.ended = some (stay.seq, answer)

def upTo (stay : Stay engine) {earlier later : List (Timestamp × Event)}
    (split : stay.during = earlier ++ later) : Stay engine :=
  { stay with
    during := earlier
    others := fun event inside => stay.others event (split ▸ List.mem_append_left later inside) }

theorem Undisturbed.follow_eq {stay : Stay engine} (undisturbed : stay.Undisturbed)
    {earlier later : List (Timestamp × Event)} (split : stay.during = earlier ++ later) :
    stay.arrival.follow engine earlier =
      stay.arrival.stepAll engine (stepTimes stay.seq earlier) := by
  apply Own.follow_undisturbed
  intro event inside
  have inStay : event ∈ stay.during := split ▸ List.mem_append_left later inside
  exact ⟨undisturbed.unstopped event inStay, undisturbed.kept event inStay⟩

theorem Undisturbed.came {stay : Stay engine} (undisturbed : stay.Undisturbed) {answer : Reply}
    {final : State} (ends : stay.EndsWith answer final) :
    ∃ times last endedAt, stay.arrival.stepAll engine times = some last ∧
      last.ending? engine endedAt = some answer ∧
      final.recorder.traces stay.request.correlationId = last.trace ∧
      final.recorder.decision? stay.request.correlationId = last.decision := by
  obtain ⟨earlier, endedAt, later, split, rfl, atEnd⟩ := ends
  obtain ⟨last, here, followed, replies, traces, decision⟩ := (stay.upTo split).ended atEnd
  have steps := (undisturbed.follow_eq split).symm.trans followed
  have sameId : last.id = stay.request.correlationId :=
    congrArg (·.correlationId) (Own.same_of_stepAll steps).2
  rw [← sameId]
  exact ⟨_, last, endedAt, steps, replies, traces, decision⟩

theorem Undisturbed.ends_of_maxSteps_le {stay : Stay engine} (undisturbed : stay.Undisturbed)
    (enough : engine.maxSteps ≤ (stepTimes stay.seq stay.during).length) :
    ∃ answer final, stay.EndsWith answer final := by
  have whole : stay.during = stay.during ++ [] := (List.append_nil stay.during).symm
  cases followed : stay.arrival.follow engine stay.during with
  | some last =>
    -- Every step uses up one of those that were left when the request arrived.
    rw [undisturbed.follow_eq whole] at followed
    have bound := Own.stepsLeft_stepAll followed
    simp only [Own.stepsLeft, arrival, Phase.stepsLeft] at bound
    unfold maxSteps at enough
    omega
  | none =>
    obtain ⟨earlier, ⟨endedAt, event⟩, later, last, split, came, atEnd⟩ :=
      Own.ended_of_follow_eq_none followed
    have sameSeq : last.live.seq = stay.seq := by
      rw [undisturbed.follow_eq split] at came
      exact (Own.same_of_stepAll came).1
    have inStay : (endedAt, event) ∈ stay.during :=
      split ▸ List.mem_append_right earlier List.mem_cons_self
    rcases Own.respond_eq_none atEnd with ⟨rfl, stepEnds⟩ | rfl
    · obtain ⟨alone, here⟩ := (stay.upTo split).own?_state
      rcases alone.stepSeq_own engine endedAt (here.trans came) with
        ⟨answer, -, -, ended, -, -, -⟩ | ⟨after, stepped, -, -⟩
      · rw [sameSeq] at split
        exact ⟨answer, _, earlier, endedAt, later, split, rfl, ended⟩
      · rw [stepEnds] at stepped
        cases stepped
    · exact absurd (by rw [sameSeq]) (undisturbed.kept _ inStay)

end Stay

theorem wire_eq (engine : Engine) (now : Timestamp) (state : State) (request : Request) :
    engine.wire now state request =
      let ran := engine.runToEnd now state.nextSeq engine.maxSteps (state.start request).1
      (ran.1, (state.start request).2 ++ ran.2.1, ran.2.2) := rfl

theorem wire_spec (engine : Engine) (now : Timestamp) (request : Request) :
    ∃ alone effects reply times last,
      engine.wire now engine.initial request = (alone, effects, some reply) ∧
      (Own.mk ⟨0, request, false, .arrived⟩ [] none).stepAll engine times = some last ∧
      last.ending? engine now = some reply ∧
      alone.recorder.traces request.correlationId = last.trace ∧
      alone.recorder.decision? request.correlationId = last.decision := by
  have nothing : ∀ event ∈ ([] : List (Timestamp × Event)),
      ¬ event.2.Starts request.correlationId := fun _ inside => (List.not_mem_nil inside).elim
  obtain ⟨alone, own⟩ := (engine.run_unused nothing).start (engine.run_orderly []) engine now
  have enough : (Own.mk ⟨0, request, false, .arrived⟩ [] none).stepsLeft engine <
      engine.maxSteps := by
    simp only [Own.stepsLeft, Phase.stepsLeft, maxSteps]
    omega
  obtain ⟨final, effects, reply, times, last, came, rest⟩ :=
    engine.runToEnd_spec now alone own enough
  have ran : engine.runToEnd now engine.initial.nextSeq engine.maxSteps
      (engine.initial.start request).1 = (final, effects, some reply) := came
  refine ⟨final, (engine.initial.start request).2 ++ effects, reply, times, last, ?_, rest⟩
  rw [wire_eq, ran]

/-- A request whose id nobody else uses and which nobody stops is answered as if it were alone on a
fresh engine. Whatever other requests do meanwhile and whatever is purged, it has ended once it has
been given its steps; it ends with the same answer, and right after that the recorder tells the same
of it, apart from times. -/
theorem answered_as_alone {engine : Engine} (stay : Stay engine) (undisturbed : stay.Undisturbed)
    (now : Timestamp) :
    ∃ alone effects reply,
      engine.wire now engine.initial stay.request = (alone, effects, some reply) ∧
      (∀ answer final, stay.EndsWith answer final →
        answer.untimed = reply.untimed ∧
        (final.recorder.completeTraceability stay.request.correlationId).untimed =
          (alone.recorder.completeTraceability stay.request.correlationId).untimed) ∧
      (engine.maxSteps ≤ (stepTimes stay.seq stay.during).length →
        ∃ answer final, stay.EndsWith answer final) := by
  obtain ⟨alone, effects, reply, times, last, wired, came, replies, traces, decision⟩ :=
    engine.wire_spec now stay.request
  refine ⟨alone, effects, reply, wired, ?_, ?_⟩
  · intro answer final ends
    obtain ⟨ownTimes, ownLast, endedAt, ownCame, ownReplies, ownTraces, ownDecision⟩ :=
      undisturbed.came ends
    have running : stay.earlier.stopped = false :=
      engine.run_stopped engine.initial undisturbed.running
    have arrivesAlike : stay.arrival.Matches (Own.mk ⟨0, stay.request, false, .arrived⟩ [] none) :=
      ⟨rfl, running, rfl, rfl, rfl⟩
    obtain ⟨same, sameReply⟩ := arrivesAlike.ends ownCame came ownReplies replies
    refine ⟨sameReply, ?_⟩
    rw [untimed_completeTraceability ownTraces ownDecision,
      untimed_completeTraceability traces decision, same.trace, same.decision]
  · exact undisturbed.ends_of_maxSteps_le

/-- The stay of the sample up to and with the step that ends it. -/
def Sample.wholeStay : Stay Sample.engine :=
  { Sample.stay with
    during := Sample.stay.during ++ [(⟨10, false⟩, .step 1)]
    others := by simp [Sample.stay, Event.Starts] }

theorem sample_answered_as_alone :
    ∃ alone effects reply answer final,
      Sample.engine.wire ⟨0, false⟩ Sample.engine.initial (Sample.request "second") =
        (alone, effects, some reply) ∧
      Sample.wholeStay.EndsWith answer final ∧ answer.untimed = reply.untimed ∧
      (final.recorder.completeTraceability "second").untimed =
        (alone.recorder.completeTraceability "second").untimed := by
  have undisturbed : Sample.wholeStay.Undisturbed := {
    running := by simp [Sample.wholeStay, Sample.stay]
    unstopped := by simp [Sample.wholeStay, Sample.stay, Event.stops]
    kept := by simp [Sample.wholeStay, Sample.stay] }
  have ends : Sample.wholeStay.EndsWith _ _ :=
    ⟨Sample.stay.during, ⟨10, false⟩, [], rfl, rfl, rfl⟩
  obtain ⟨alone, effects, reply, wired, same, -⟩ :=
    answered_as_alone Sample.wholeStay undisturbed ⟨0, false⟩
  exact ⟨alone, effects, reply, _, _, wired, ends, same _ _ ends⟩

end Engine

end Switchyard
