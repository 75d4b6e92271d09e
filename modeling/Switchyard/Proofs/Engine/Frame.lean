import Switchyard.Proofs.Engine.Bookkeeping
import Switchyard.Proofs.Execution.Walk
set_option autoImplicit false

/-! What an event leaves as it is: the requests that it is not about, and what is held under their
correlation ids. -/
namespace Switchyard

def Phase.Of (id : String) : Phase → Prop
  | .arrived => True
  | .walking stage => stage.Of id

namespace Controller

variable (controller : Controller) (now : Timestamp) (request : Request)

theorem answerByLegacy_quiet :
    ∀ effect ∈ (controller.answerByLegacy now request).2, effect.Quiet := by
  unfold answerByLegacy askLegacy
  cases controller.legacy request.legacyCall with
  | ok response => exact List.forall_mem_singleton.mpr trivial
  | error error =>
    cases controller.strategy with
    | strict => exact List.forall_mem_singleton.mpr trivial
    | graceful | hybrid =>
      exact List.forall_mem_cons.mpr ⟨trivial, List.forall_mem_singleton.mpr trivial⟩

theorem recover_quiet (error : WalkError) :
    ∀ effect ∈ (controller.recover now request error).2, effect.Quiet := by
  have failed : ∀ warning, Effect.Quiet (.warned warning) := fun _ => trivial
  have called : Effect.Quiet (.calledLegacy request.legacyCall) := trivial
  unfold recover askLegacy
  cases controller.strategy with
  | strict => exact List.forall_mem_singleton.mpr (failed _)
  | graceful | hybrid =>
    cases error with
    | cancelled => exact List.forall_mem_singleton.mpr (failed _)
    | missingNode | cycleDetected | nodeFailed =>
      cases controller.legacy request.legacyCall with
      | ok response =>
        exact List.forall_mem_cons.mpr ⟨failed _, List.forall_mem_singleton.mpr called⟩
      | error error =>
        exact List.forall_mem_cons.mpr ⟨failed _, List.forall_mem_cons.mpr
          ⟨called, List.forall_mem_singleton.mpr (failed _)⟩⟩

theorem conclude_quiet (result : Except WalkError Context) :
    ∀ effect ∈ (controller.conclude now request result).2, effect.Quiet := by
  cases result with
  | ok context => exact fun effect inside => (List.not_mem_nil inside).elim
  | error error => exact controller.recover_quiet now request error

end Controller

namespace Engine

variable {engine : Engine} {now : Timestamp} {live : LiveRequest} {effects : List Effect}

theorem ended_cases {reply : Reply} (ended : engine.advance now live = (.inl reply, effects)) :
    (engine.controller.enabled = false ∧ live.phase = .arrived ∧
        engine.controller.answerByLegacy now live.request = (reply, effects)) ∨
      ∃ result, live.phase = .walking (.ended result) ∧
        engine.controller.conclude now live.request result = (reply, effects) := by
  unfold advance at ended
  split at ended
  · rename_i arrived
    split at ended
    · cases ended
    · rename_i disabled
      obtain ⟨sameReply, sameEffects⟩ := Prod.mk.inj ended
      refine Or.inl ⟨Bool.not_eq_true _ ▸ disabled, arrived, ?_⟩
      exact Prod.ext (Sum.inl.inj sameReply) sameEffects
  · rename_i result walked
    obtain ⟨sameReply, sameEffects⟩ := Prod.mk.inj ended
    exact Or.inr ⟨result, walked, Prod.ext (Sum.inl.inj sameReply) sameEffects⟩
  · cases ended

theorem went_cases {phase : Phase} (went : engine.advance now live = (.inr phase, effects)) :
    (engine.controller.enabled = true ∧ live.phase = .arrived ∧
        phase = .walking
          (Walk.start engine.controller.root (Controller.prepare live.request)) ∧
        effects = Effect.warnings (Controller.prepareWarnings live.request)) ∨
      ∃ stage, live.phase = .walking stage ∧ (∀ result, stage ≠ .ended result) ∧
        phase = .walking
          (stage.advance engine.controller.executor live.cancelled now).1 ∧
        effects = (stage.advance engine.controller.executor live.cancelled now).2 := by
  unfold advance at went
  split at went
  · rename_i arrived
    split at went
    · rename_i enabled
      obtain ⟨samePhase, sameEffects⟩ := Prod.mk.inj went
      exact Or.inl ⟨enabled, arrived, (Sum.inr.inj samePhase).symm, sameEffects.symm⟩
    · cases went
  · cases went
  · rename_i stage goesOn walking
    obtain ⟨samePhase, sameEffects⟩ := Prod.mk.inj went
    exact Or.inr ⟨stage, walking, fun result atEnd => goesOn result atEnd,
      (Sum.inr.inj samePhase).symm, sameEffects.symm⟩

theorem quiet_of_ended {reply : Reply} (ended : engine.advance now live = (.inl reply, effects)) :
    ∀ effect ∈ effects ++ closing reply, effect.Quiet := by
  have quiet : ∀ effect ∈ effects, effect.Quiet := by
    rcases ended_cases ended with ⟨-, -, answered⟩ | ⟨result, -, concluded⟩
    · have left := engine.controller.answerByLegacy_quiet now live.request
      rw [answered] at left
      exact left
    · have left := engine.controller.conclude_quiet now live.request result
      rw [concluded] at left
      exact left
  intro effect inside
  rcases List.mem_append.mp inside with early | last
  · exact quiet effect early
  · exact closing_quiet reply effect last

/-- A step that does not end a request stays with its correlation id, leaves nothing under another,
and leaves a record if it leaves anything. -/
theorem own_of_went {phase : Phase} (own : live.phase.Of live.request.correlationId)
    (went : engine.advance now live = (.inr phase, effects)) :
    phase.Of live.request.correlationId ∧
      (∀ effect ∈ effects, effect.IsOf live.request.correlationId) ∧
      ((∀ effect ∈ effects, effect.Quiet) ∨ effects.filterMap Effect.record? ≠ []) := by
  rcases went_cases went with ⟨-, -, rfl, rfl⟩ | ⟨stage, walking, -, rfl, rfl⟩
  · have quiet : ∀ effect ∈ Effect.warnings (Controller.prepareWarnings live.request),
        effect.Quiet := fun effect inside => Effect.quiet_of_mem_warnings inside
    exact ⟨Controller.prepare_correlationId live.request,
      fun effect inside => (quiet effect inside).isOf _, Or.inl quiet⟩
  · rw [walking] at own
    obtain ⟨still, isOf⟩ := Stage.of_advance engine.controller.executor live.cancelled now own
    refine ⟨still, isOf, ?_⟩
    rcases Stage.quiet_or_recorded engine.controller.executor live.cancelled now own with
      quiet | ⟨_, _, _, _, _, recorded⟩
    · exact Or.inl quiet
    · rw [recorded]
      exact Or.inr (List.cons_ne_nil _ _)

/-! What an event leaves of the live requests. -/

/-- A live request as it was before an event and as it is after it: only a step of its own takes it
further. -/
structure Continues (engine : Engine) (now : Timestamp) (event : Event)
    (before after : LiveRequest) : Prop where
  seq : after.seq = before.seq
  request : after.request = before.request
  waits : event ≠ .step before.seq → after.phase = before.phase
  goes : event = .step before.seq →
    ∃ effects, engine.advance now before = (.inr after.phase, effects)

theorem continues_of_waits {engine : Engine} {now : Timestamp} {event : Event}
    {before after : LiveRequest} (seq : after.seq = before.seq)
    (request : after.request = before.request) (phase : after.phase = before.phase)
    (other : event ≠ .step before.seq) : Continues engine now event before after :=
  ⟨seq, request, fun _ => phase, fun goes => absurd goes other⟩

def Event.Starts (id : String) : Event → Prop
  | .start request => request.correlationId = id
  | _ => False

namespace State

theorem find?_mapLive (state : State) {change : LiveRequest → LiveRequest}
    (same : ∀ live, (change live).seq = live.seq) (seq : Nat) :
    (state.mapLive change).find? seq = (state.find? seq).map change := by
  unfold find? mapLive
  rw [List.find?_map]
  congr 2
  funext live
  simp [same]

theorem find?_setPhase (state : State) (stepped seq : Nat) (phase : Phase) :
    (state.setPhase stepped phase).find? seq =
      (state.find? seq).map fun live =>
        if live.seq = stepped then { live with phase := phase } else live := by
  apply find?_mapLive
  intro live
  split <;> rfl

theorem find?_release (state : State) (live : LiveRequest) (seq : Nat) :
    (state.release live).find? seq = if seq = live.seq then none else state.find? seq := by
  unfold find? release
  dsimp only
  rw [List.find?_filter]
  split
  · rename_i same
    subst same
    rw [List.find?_eq_none]
    intro other _
    simp
  · rename_i different
    congr 1
    funext other
    by_cases same : other.seq = seq
    · simp [same, different]
    · simp [same]

theorem find?_stepSeq_self (engine : Engine) (now : Timestamp) (state : State) (seq : Nat) :
    (engine.stepSeq now state seq).1.find? seq = (state.find? seq).bind fun live =>
      match (engine.advance now live).1 with
      | .inr phase => some { live with phase := phase }
      | .inl _ => none := by
  rcases engine.stepSeq_cases now state seq with
    ⟨gone, same⟩ | ⟨live, phase, effects, found, went, same⟩ |
      ⟨live, reply, effects, found, atEnd, same⟩
  · rw [same, gone]
    rfl
  · rw [same]
    refine (find?_setPhase state seq seq phase).trans ?_
    rw [found, Option.bind_some, went]
    exact congrArg some (if_pos (mem_of_find? found).2)
  · rw [same, find?_release, if_pos (mem_of_find? found).2.symm, found, Option.bind_some, atEnd]

theorem find?_drop_self (engine : Engine) (now : Timestamp) (state : State) (seq : Nat) :
    (engine.handle now state (.drop seq)).1.find? seq = none := by
  simp only [Engine.handle]
  split
  · rename_i live found
    rw [find?_release, if_pos (mem_of_find? found).2.symm]
  · assumption

theorem find?_start (state : State) (request : Request) {seq : Nat} (issued : seq < state.nextSeq) :
    (state.start request).1.find? seq = (state.cancel request.correlationId).1.find? seq := by
  have notNew : ¬ state.nextSeq = seq := by omega
  simp [find?, start, List.find?_append, notNew]

theorem Booked.find?_start_self {state : State} (booked : state.Booked) (request : Request) :
    (state.start request).1.find? state.nextSeq =
      some ⟨state.nextSeq, request, state.stopped, .arrived⟩ := by
  have inside : (⟨state.nextSeq, request, state.stopped, .arrived⟩ : LiveRequest) ∈
      (state.start request).1.live :=
    List.mem_append_right _ (List.mem_singleton_self _)
  exact (booked.start request).find?_eq inside

theorem setCancelled_of_cancelled {live : LiveRequest} (cancelled : live.cancelled = true) :
    { live with cancelled := true } = live := by
  rw [← cancelled]

theorem Booked.find?_cancel {state : State} (booked : state.Booked) (id : String) (seq : Nat) :
    (state.cancel id).1.find? seq = (state.find? seq).map fun live =>
      if live.request.correlationId = id then { live with cancelled := true } else live := by
  unfold State.cancel
  split
  · rename_i owner owned
    change (state.mapLive _).find? seq = _
    rw [find?_mapLive state (by intro live; split <;> rfl)]
    cases found : state.find? seq with
    | none => rfl
    | some live =>
      obtain ⟨inside, -⟩ := mem_of_find? found
      refine congrArg some ?_
      dsimp only
      by_cases same : live.request.correlationId = id
      · rw [if_pos same]
        rcases booked.ownsOrCancelled live inside with owns | cancelled
        · rw [same, owned] at owns
          rw [if_pos (Option.some.inj owns).symm]
        · rw [setCancelled_of_cancelled cancelled, ite_self]
      · rw [if_neg same, if_neg]
        intro sameSeq
        obtain ⟨other, otherInside, otherSeq, otherId⟩ := booked.entryLive id owner owned
        rw [booked.eq_of_seq_eq otherInside inside (otherSeq.trans sameSeq.symm)] at otherId
        exact same otherId
  · rename_i absent
    cases found : state.find? seq with
    | none => rfl
    | some live =>
      obtain ⟨inside, -⟩ := mem_of_find? found
      refine congrArg some ?_
      dsimp only
      split
      · rename_i same
        rcases booked.ownsOrCancelled live inside with owns | cancelled
        · rw [same, absent] at owns
          cases owns
        · exact (setCancelled_of_cancelled cancelled).symm
      · rfl

theorem mem_mapLive {state : State} {change : LiveRequest → LiveRequest} {engine : Engine}
    {now : Timestamp} {event : Event}
    (same : ∀ before ∈ state.live, Continues engine now event before (change before))
    {live : LiveRequest} (inside : live ∈ (state.mapLive change).live) :
    ∃ before ∈ state.live, Continues engine now event before live := by
  obtain ⟨before, beforeInside, rfl⟩ := List.mem_map.mp inside
  exact ⟨before, beforeInside, same before beforeInside⟩

theorem mem_cancel {state : State} {id : String} (engine : Engine) (now : Timestamp)
    {event : Event} {live : LiveRequest} (noStep : ∀ seq, event ≠ .step seq)
    (inside : live ∈ (state.cancel id).1.live) :
    ∃ before ∈ state.live, Continues engine now event before live := by
  unfold State.cancel at inside
  split at inside
  · refine mem_mapLive (fun before _ => ?_) inside
    split <;> exact continues_of_waits rfl rfl rfl (noStep _)
  · exact ⟨live, inside, continues_of_waits rfl rfl rfl (noStep _)⟩

theorem Booked.mem_stepSeq {state : State} (booked : state.Booked) (engine : Engine)
    (now : Timestamp) (seq : Nat) {live : LiveRequest}
    (inside : live ∈ (engine.stepSeq now state seq).1.live) :
    ∃ before ∈ state.live, Continues engine now (.step seq) before live := by
  have waits : ∀ {other : LiveRequest}, other.seq ≠ seq →
      Continues engine now (.step seq) other other := by
    intro other different
    exact continues_of_waits rfl rfl rfl fun same => different (Event.step.inj same).symm
  rcases engine.stepSeq_cases now state seq with
    ⟨gone, same⟩ | ⟨stepped, phase, effects, found, went, same⟩ |
      ⟨stepped, reply, effects, found, -, same⟩
  · rw [same] at inside
    refine ⟨live, inside, waits fun sameSeq => ?_⟩
    have found := booked.find?_eq inside
    rw [sameSeq, gone] at found
    cases found
  · rw [same] at inside
    obtain ⟨steppedInside, steppedSeq⟩ := mem_of_find? found
    refine mem_mapLive (fun before beforeInside => ?_) inside
    split
    · rename_i sameSeq
      obtain rfl := booked.eq_of_seq_eq beforeInside steppedInside (sameSeq.trans steppedSeq.symm)
      have own : Event.step seq = .step before.seq := congrArg Event.step sameSeq.symm
      exact ⟨rfl, rfl, fun other => absurd own other, fun _ => ⟨effects, went⟩⟩
    · rename_i different
      exact waits different
  · rw [same] at inside
    obtain ⟨earlier, kept⟩ := List.mem_filter.mp inside
    refine ⟨live, earlier, waits fun sameSeq => ?_⟩
    exact of_decide_eq_true kept (sameSeq.trans (mem_of_find? found).2.symm)

/-- After an event only those are live that were live before, and the one that it starts. -/
theorem Booked.mem_handle {state : State} (booked : state.Booked) (engine : Engine)
    (now : Timestamp) (event : Event) {live : LiveRequest}
    (inside : live ∈ (engine.handle now state event).1.live) :
    (∃ request, event = .start request ∧
        live = ⟨state.nextSeq, request, state.stopped, .arrived⟩) ∨
      ∃ before ∈ state.live, Continues engine now event before live := by
  cases event with
  | start request =>
    rcases List.mem_append.mp inside with earlier | fresh
    · have noStep : ∀ seq, Event.start request ≠ .step seq := fun _ => Event.noConfusion
      exact Or.inr (mem_cancel engine now noStep earlier)
    · exact Or.inl ⟨request, rfl, List.mem_singleton.mp fresh⟩
  | step seq => exact Or.inr (booked.mem_stepSeq engine now seq inside)
  | drop seq =>
    have earlier : live ∈ state.live := by
      simp only [Engine.handle] at inside
      split at inside
      · exact (List.mem_filter.mp inside).1
      · exact inside
    exact Or.inr ⟨live, earlier, continues_of_waits rfl rfl rfl Event.noConfusion⟩
  | cancel id =>
    have noStep : ∀ seq, Event.cancel id ≠ .step seq := fun _ => Event.noConfusion
    exact Or.inr (mem_cancel engine now noStep inside)
  | shutdown =>
    obtain ⟨before, beforeInside, rfl⟩ := List.mem_map.mp inside
    exact Or.inr ⟨before, beforeInside, continues_of_waits rfl rfl rfl Event.noConfusion⟩
  | purge cutoff => exact Or.inr ⟨live, inside, continues_of_waits rfl rfl rfl Event.noConfusion⟩

theorem nextSeq_le_handle (engine : Engine) (now : Timestamp) (state : State) (event : Event) :
    state.nextSeq ≤ (engine.handle now state event).1.nextSeq := by
  cases event with
  | start request =>
    change state.nextSeq ≤ (state.cancel request.correlationId).1.nextSeq + 1
    rw [cancel_nextSeq]
    exact Nat.le_succ _
  | step seq =>
    change state.nextSeq ≤ (engine.stepSeq now state seq).1.nextSeq
    rcases engine.stepSeq_cases now state seq with ⟨-, same⟩ | ⟨_, _, _, -, -, same⟩ |
      ⟨_, _, _, -, -, same⟩ <;> rw [same] <;> exact Nat.le_refl _
  | drop seq =>
    simp only [Engine.handle]
    split <;> exact Nat.le_refl _
  | cancel id => exact Nat.le_of_eq (cancel_nextSeq state id).symm
  | shutdown => exact Nat.le_refl _
  | purge cutoff => exact Nat.le_refl _

/-- The accounts are right, and every request walks for its own correlation id. -/
structure Orderly (state : State) : Prop where
  booked : state.Booked
  own : ∀ live ∈ state.live, live.phase.Of live.request.correlationId

theorem Orderly.handle {state : State} (orderly : state.Orderly) (engine : Engine)
    (now : Timestamp) (event : Event) : (engine.handle now state event).1.Orderly := by
  refine ⟨orderly.booked.handle engine now event, fun live inside => ?_⟩
  rcases orderly.booked.mem_handle engine now event inside with
    ⟨request, -, rfl⟩ | ⟨before, beforeInside, continues⟩
  · trivial
  · have own := orderly.own before beforeInside
    rw [continues.request]
    by_cases isStep : event = .step before.seq
    · obtain ⟨effects, went⟩ := continues.goes isStep
      exact (own_of_went own went).1
    · rw [continues.waits isStep]
      exact own

/-- The event is neither a step nor the end of a request of this id. -/
def Foreign (state : State) (id : String) (event : Event) : Prop :=
  ∀ live ∈ state.live, live.request.correlationId = id →
    event ≠ .step live.seq ∧ event ≠ .drop live.seq

/-- What is held under an id stays while others start, go on, end or purge. -/
theorem Orderly.held_handle {state : State} (orderly : state.Orderly) (engine : Engine)
    (now : Timestamp) {event : Event} {id : String} (foreign : state.Foreign id event)
    (spared : state.recorder.Spared id)
    (tied : (state.recorder.decision? id).isSome = true → state.recorder.traces id ≠ []) :
    (engine.handle now state event).1.recorder.held id = state.recorder.held id := by
  have released : ∀ (live : LiveRequest) (effects : List Effect),
      live.request.correlationId ≠ id →
      (∀ effect ∈ effects, effect.IsOf live.request.correlationId) →
      ((state.recorder.applyAll now effects).finishRequest live.request.correlationId).held id =
        state.recorder.held id := by
    intro live effects other isOf
    have same := Recorder.held_applyAll_of_ne now state.recorder isOf other spared
    have still := spared.of_same (Recorder.applyAll_running now state.recorder effects) same
    exact (Recorder.finishRequest_held_of_ne _ other still).trans same
  cases event with
  | start request =>
    change ((state.cancel request.correlationId).1.recorder.beginRequest _).held id = _
    rw [cancel_recorder]
    rfl
  | step seq =>
    change (engine.stepSeq now state seq).1.recorder.held id = _
    rcases engine.stepSeq_cases now state seq with
      ⟨-, same⟩ | ⟨live, phase, effects, found, went, same⟩ |
        ⟨live, reply, effects, found, ended, same⟩
    · rw [same]
    · rw [same]
      obtain ⟨inside, sameSeq⟩ := mem_of_find? found
      have other : live.request.correlationId ≠ id := fun sameId =>
        (foreign live inside sameId).1 (by rw [sameSeq])
      obtain ⟨-, isOf, -⟩ := own_of_went (orderly.own live inside) went
      exact Recorder.held_applyAll_of_ne now state.recorder isOf other spared
    · rw [same]
      obtain ⟨inside, sameSeq⟩ := mem_of_find? found
      have other : live.request.correlationId ≠ id := fun sameId =>
        (foreign live inside sameId).1 (by rw [sameSeq])
      exact released live (effects ++ closing reply) other fun effect left =>
        (quiet_of_ended ended effect left).isOf _
  | drop seq =>
    simp only [Engine.handle]
    split
    · rename_i live found
      obtain ⟨inside, sameSeq⟩ := mem_of_find? found
      have other : live.request.correlationId ≠ id := fun sameId =>
        (foreign live inside sameId).2 (by rw [sameSeq])
      exact released live [] other fun effect left => (List.not_mem_nil left).elim
    · rfl
  | cancel other =>
    change (state.cancel other).1.recorder.held id = _
    rw [cancel_recorder]
  | shutdown => rfl
  | purge cutoff => exact (state.recorder.purgeBefore_purged cutoff).held_of_spared spared tied

/-- Nobody has used the id yet. -/
structure Unused (state : State) (id : String) : Prop where
  nobody : ∀ live ∈ state.live, live.request.correlationId ≠ id
  nothing : state.recorder.held id = (none, none)

theorem Unused.handle {state : State} {id : String} (unused : state.Unused id)
    (orderly : state.Orderly) (engine : Engine) (now : Timestamp) {event : Event}
    (other : ¬ event.Starts id) : (engine.handle now state event).1.Unused id := by
  constructor
  · intro live inside
    rcases orderly.booked.mem_handle engine now event inside with
      ⟨request, rfl, rfl⟩ | ⟨before, beforeInside, continues⟩
    · exact other
    · rw [continues.request]
      exact unused.nobody before beforeInside
  · have foreign : state.Foreign id event := fun live inside sameId =>
      absurd sameId (unused.nobody live inside)
    have undecided : state.recorder.decision? id = none := congrArg Prod.snd unused.nothing
    rw [orderly.held_handle engine now foreign (Or.inr unused.nothing) (by simp [undecided])]
    exact unused.nothing

theorem Unused.run {state : State} {id : String} (unused : state.Unused id)
    (orderly : state.Orderly) (engine : Engine) {events : List (Timestamp × Event)}
    (others : ∀ event ∈ events, ¬ event.2.Starts id) : (engine.run state events).Unused id := by
  induction events generalizing state with
  | nil => exact unused
  | cons event later ih =>
    obtain ⟨other, othersLater⟩ := List.forall_mem_cons.mp others
    exact ih (unused.handle orderly engine event.1 other) (orderly.handle engine event.1 event.2)
      othersLater

end State

theorem run_orderly (engine : Engine) (events : List (Timestamp × Event)) :
    (engine.run engine.initial events).Orderly :=
  engine.run_preserves (fun now _ event orderly => orderly.handle engine now event)
    ⟨engine.initial_booked, fun _ inside => (List.not_mem_nil inside).elim⟩ events

theorem run_unused (engine : Engine) {events : List (Timestamp × Event)} {id : String}
    (others : ∀ event ∈ events, ¬ event.2.Starts id) :
    (engine.run engine.initial events).Unused id := by
  have unused : engine.initial.Unused id := ⟨fun _ inside => (List.not_mem_nil inside).elim, rfl⟩
  exact unused.run (engine.run_orderly []) engine others

end Engine

end Switchyard
