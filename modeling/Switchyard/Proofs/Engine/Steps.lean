import Switchyard.Proofs.Engine.Isolation
set_option autoImplicit false

/-! What the steps of one request do in a run. Main statement: they do what the request would do by
itself, told of the other events only whether one of them has cancelled it. Other requests may use
its correlation id. -/
namespace Switchyard.Engine

/-- The caller of the request gives it up. -/
def Event.isDropOf (seq : Nat) : Event → Bool
  | .drop dropped => dropped = seq
  | _ => false

/-- What the steps of the request with a sequence number do in a run, one after another, as long as
it is live. -/
def stepsOf (engine : Engine) (seq : Nat) : State → List (Timestamp × Event) → List Happening
  | _, [] => []
  | state, (now, event) :: later =>
    let (after, happening) := engine.handle now state event
    let rest := stepsOf engine seq after later
    if event.isStepOf seq && (state.find? seq).isSome then happening :: rest else rest

/-- What a request does by itself when some events reach it. -/
def soloSteps (engine : Engine) (live : LiveRequest) : List (Timestamp × Event) → List Happening
  | [] => []
  | (now, event) :: later =>
    if event.isStepOf live.seq then
      match engine.advance now live with
      | (.inr phase, effects) =>
        { effects := effects } :: soloSteps engine { live with phase := phase } later
      | (.inl reply, effects) =>
        [{ effects := effects ++ closing reply, ended := some (live.seq, reply) }]
    else if event.isDropOf live.seq then []
    else soloSteps engine (reachedBy event live) later

def effectsOf (steps : List Happening) : List Effect := steps.flatMap (·.effects)

theorem effectsOf_cons (step : Happening) (later : List Happening) :
    effectsOf (step :: later) = step.effects ++ effectsOf later := List.flatMap_cons

theorem effectsOf_singleton (step : Happening) : effectsOf [step] = step.effects := by
  rw [effectsOf_cons]
  exact List.append_nil _

def Answered (steps : List Happening) (seq : Nat) (reply : Reply) : Prop :=
  ∃ step ∈ steps, step.ended = some (seq, reply)

theorem Event.isDropOf_iff {event : Event} {seq : Nat} :
    event.isDropOf seq = true ↔ event = .drop seq := by
  cases event <;> simp [isDropOf]

theorem Event.isDropOf_of_ne {event : Event} {seq : Nat} (notDrop : event ≠ .drop seq) :
    event.isDropOf seq = false :=
  Bool.eq_false_iff.mpr fun same => notDrop (Event.isDropOf_iff.mp same)

section Solo

variable {engine : Engine} {live : LiveRequest} {now : Timestamp}

theorem soloSteps_step {phase : Phase} {effects : List Effect}
    (went : engine.advance now live = (.inr phase, effects)) (later : List (Timestamp × Event)) :
    engine.soloSteps live ((now, .step live.seq) :: later) =
      { effects := effects } :: engine.soloSteps { live with phase := phase } later := by
  rw [soloSteps, if_pos (Event.isStepOf_iff.mpr rfl), went]

theorem soloSteps_last {reply : Reply} {effects : List Effect}
    (ended : engine.advance now live = (.inl reply, effects))
    (later : List (Timestamp × Event)) :
    engine.soloSteps live ((now, .step live.seq) :: later) =
      [{ effects := effects ++ closing reply, ended := some (live.seq, reply) }] := by
  rw [soloSteps, if_pos (Event.isStepOf_iff.mpr rfl), ended]

theorem soloSteps_drop (engine : Engine) (live : LiveRequest) (now : Timestamp)
    (later : List (Timestamp × Event)) :
    engine.soloSteps live ((now, .drop live.seq) :: later) = [] := by
  simp [soloSteps, Event.isStepOf, Event.isDropOf]

theorem soloSteps_other {event : Event} (notStep : event ≠ .step live.seq)
    (notDrop : event ≠ .drop live.seq) (later : List (Timestamp × Event)) :
    engine.soloSteps live ((now, event) :: later) =
      engine.soloSteps (reachedBy event live) later := by
  simp [soloSteps, Event.isStepOf_of_ne notStep, Event.isDropOf_of_ne notDrop]

end Solo

namespace State

variable {state : State}

theorem Booked.stepsOf_gone (booked : state.Booked) (engine : Engine) {seq : Nat}
    (issued : seq < state.nextSeq) (gone : state.find? seq = none)
    (events : List (Timestamp × Event)) : engine.stepsOf seq state events = [] := by
  induction events generalizing state with
  | nil => rfl
  | cons event later ih =>
    obtain ⟨now, event⟩ := event
    have stillGone : (engine.handle now state event).1.find? seq = none := by
      by_cases step : event = .step seq
      · subst step
        exact (find?_stepSeq_self engine now state seq).trans (by rw [gone]; rfl)
      · by_cases drop : event = .drop seq
        · subst drop
          exact find?_drop_self engine now state seq
        · rw [booked.find?_handle engine now issued step drop, gone]
          rfl
    have issuedThen := Nat.lt_of_lt_of_le issued (nextSeq_le_handle engine now state event)
    simp only [stepsOf, gone, Option.isSome_none, Bool.and_false, Bool.false_eq_true, if_false]
    exact ih (booked.handle engine now event) issuedThen stillGone

/-- In a run the steps of a request do what the request would do by itself. -/
theorem Booked.stepsOf_eq (booked : state.Booked) (engine : Engine) (live : LiveRequest)
    (found : state.find? live.seq = some live) (events : List (Timestamp × Event)) :
    engine.stepsOf live.seq state events = engine.soloSteps live events := by
  induction events generalizing state live with
  | nil => rfl
  | cons event later ih =>
    obtain ⟨now, event⟩ := event
    have issued := booked.issued live (mem_of_find? found).1
    have still := booked.handle engine now event
    have issuedThen := Nat.lt_of_lt_of_le issued (nextSeq_le_handle engine now state event)
    by_cases step : event = .step live.seq
    · subst step
      have isOwn : Event.isStepOf live.seq (.step live.seq) = true := Event.isStepOf_iff.mpr rfl
      simp only [stepsOf, found, isOwn, Option.isSome_some, Bool.and_true, if_true]
      change (engine.stepSeq now state live.seq).2 ::
        engine.stepsOf live.seq (engine.stepSeq now state live.seq).1 later = _
      change (engine.stepSeq now state live.seq).1.Booked at still
      change live.seq < (engine.stepSeq now state live.seq).1.nextSeq at issuedThen
      have next := find?_stepSeq_self engine now state live.seq
      rw [found, Option.bind_some] at next
      rcases engine.stepSeq_cases now state live.seq with
        ⟨absent, -⟩ | ⟨other, phase, effects, here, went, same⟩ |
          ⟨other, reply, effects, here, atEnd, same⟩
      · rw [found] at absent
        cases absent
      · obtain rfl : other = live := Option.some.inj (here.symm.trans found)
        rw [went] at next
        rw [soloSteps_step went]
        refine congrArg₂ List.cons (by rw [same]) ?_
        exact ih still { other with phase := phase } next
      · obtain rfl : other = live := Option.some.inj (here.symm.trans found)
        rw [atEnd] at next
        rw [soloSteps_last atEnd, still.stepsOf_gone engine issuedThen next, same]
    · simp only [stepsOf, Event.isStepOf_of_ne step, Bool.false_and, Bool.false_eq_true, if_false]
      by_cases drop : event = .drop live.seq
      · subst drop
        have gone := find?_drop_self engine now state live.seq
        rw [soloSteps_drop, still.stepsOf_gone engine issuedThen gone]
      · have after := booked.find?_handle engine now issued step drop
        rw [found, Option.map_some] at after
        rw [soloSteps_other step drop]
        exact ih still (reachedBy event live) after

end State

theorem stepsOf_start (engine : Engine) (before : List (Timestamp × Event)) (startedAt : Timestamp)
    (request : Request) (during : List (Timestamp × Event)) :
    let state := engine.run engine.initial before
    engine.stepsOf state.nextSeq
        (engine.run engine.initial (before ++ [(startedAt, .start request)])) during =
      engine.soloSteps ⟨state.nextSeq, request, state.stopped, .arrived⟩ during := by
  intro state
  have booked : state.Booked := engine.run_booked before
  rw [run_append]
  exact (booked.start request).stepsOf_eq engine ⟨state.nextSeq, request, state.stopped, .arrived⟩
    (booked.find?_start_self request) during

theorem soloSteps_end {engine : Engine} (live : LiveRequest) {events : List (Timestamp × Event)}
    (kept : ∀ event ∈ events, event.2 ≠ .drop live.seq)
    (enough : live.phase.stepsLeft engine.controller.executor.registry <
      (stepTimes live.seq events).length) :
    ∃ reply, Answered (engine.soloSteps live events) live.seq reply := by
  induction events generalizing live with
  | nil => exact absurd enough (Nat.not_lt_zero _)
  | cons event later ih =>
    obtain ⟨now, event⟩ := event
    obtain ⟨keptNow, keptLater⟩ := List.forall_mem_cons.mp kept
    by_cases step : event = .step live.seq
    · subst step
      rw [stepTimes_own, List.length_cons] at enough
      cases advanced : engine.advance now live with
      | mk outcome effects =>
        cases outcome with
        | inl reply =>
          rw [soloSteps_last advanced]
          exact ⟨reply, _, List.mem_singleton_self _, rfl⟩
        | inr phase =>
          have nearer := stepsLeft_advance_lt advanced
          obtain ⟨reply, last, inside, ends⟩ :=
            ih { live with phase := phase } keptLater (by dsimp only; omega)
          rw [soloSteps_step advanced]
          exact ⟨reply, last, List.mem_cons_of_mem _ inside, ends⟩
    · rw [stepTimes_other step] at enough
      rw [soloSteps_other step keptNow]
      exact ih (reachedBy event live) keptLater enough

theorem soloSteps_end_of_arrived {engine : Engine} (live : LiveRequest)
    (arrived : live.phase = .arrived) {events : List (Timestamp × Event)}
    (kept : ∀ event ∈ events, event.2 ≠ .drop live.seq)
    (enough : engine.maxSteps ≤ (stepTimes live.seq events).length) :
    ∃ reply, Answered (engine.soloSteps live events) live.seq reply := by
  refine soloSteps_end live kept ?_
  rw [arrived, Phase.stepsLeft]
  unfold maxSteps at enough
  omega

end Switchyard.Engine
