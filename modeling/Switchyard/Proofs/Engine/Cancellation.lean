import Mathlib.Data.List.TakeWhile
import Switchyard.Proofs.Engine.Steps
set_option autoImplicit false

/-! What becomes of a request that is cancelled. Main statement: it executes no further node; if
it is inside of one it ends that node with an error, and then it is answered without the legacy
path. -/
namespace Switchyard

def Effect.activation? : Effect → Option (String × NodeActivation)
  | .activated nodeId activation => some (nodeId, activation)
  | _ => none

/-- Nothing is done but to warn. -/
def OnlyWarns (effects : List Effect) : Prop :=
  ∀ effect ∈ effects, ∃ warning, effect = .warned warning

theorem OnlyWarns.filterMap_eq_nil {α : Type} {effects : List Effect} {select : Effect → Option α}
    (warns : OnlyWarns effects) (spares : ∀ warning, select (.warned warning) = none) :
    effects.filterMap select = [] := by
  refine List.filterMap_eq_nil_iff.mpr fun effect inside => ?_
  obtain ⟨warning, rfl⟩ := warns effect inside
  exact spares warning

def Work.leaf? : Work → Option DataFlowNode
  | .leaf node _ => some node
  | .capability .. => none

namespace Phase

/-- The walk has not ended: the request is before its first node, between two nodes or inside of
one. -/
def Pending : Phase → Prop
  | .arrived => True
  | .walking (.between walk) => walk.stack ≠ []
  | .walking (.inside ..) => True
  | .walking (.ended _) => False

/-- The node that the request is inside of, waiting for work. -/
def suspended? : Phase → Option NodeRun
  | .walking (.inside _ _ run) => some run
  | _ => none

end Phase

theorem Executor.finish_cancelled (executor : Executor) (now : Timestamp) (run : NodeRun) :
    executor.finish true now run =
      (.error .cancelled, (Executor.close run.work run.startedAt now (.error .cancelled)).2 ++
        [.recorded (executor.recordOf run.node run.before run.startedAt now none
          (.error .cancelled))]) := by
  obtain ⟨node, before, startedAt, work⟩ := run
  cases work <;> rfl

theorem Walk.visitNext_cancelled {walk : Walk} (ahead : walk.stack ≠ []) (executor : Executor)
    (now : Timestamp) :
    walk.visitNext executor true now = (.ended (.error .cancelled), []) := by
  obtain ⟨id, rest, next⟩ := List.exists_cons_of_ne_nil ahead
  rw [visitNext, next]
  rfl

theorem Controller.recover_cancelled (controller : Controller) (now : Timestamp)
    (request : Request) :
    (controller.recover now request .cancelled).2 =
        [.warned (.walkFailed request.correlationId WalkError.cancelled.message
          controller.strategy.title)] ∧
      (controller.recover now request .cancelled).1 =
        if controller.strategy = .strict then .error (.walk .cancelled)
        else .ok (.apology request.correlationId now) := by
  unfold recover
  cases controller.strategy <;> exact ⟨rfl, rfl⟩

namespace Engine

/-! The steps of a request that has been cancelled. -/

/-- What a request does by itself when it takes steps at some times and nothing else happens. -/
def stepsAt (engine : Engine) (live : LiveRequest) : List Timestamp → List Happening
  | [] => []
  | now :: later =>
    match engine.advance now live with
    | (.inr phase, effects) =>
      { effects := effects } :: stepsAt engine { live with phase := phase } later
    | (.inl reply, effects) =>
      [{ effects := effects ++ closing reply, ended := some (live.seq, reply) }]

/-- The times at which a request takes its steps as long as it is not given up. -/
def keptTimes (seq : Nat) (events : List (Timestamp × Event)) : List Timestamp :=
  stepTimes seq (events.takeWhile fun event => !event.2.isDropOf seq)

theorem keptTimes_eq {seq : Nat} {events : List (Timestamp × Event)}
    (kept : ∀ event ∈ events, event.2 ≠ .drop seq) :
    keptTimes seq events = stepTimes seq events := by
  have all : (events.takeWhile fun event => !event.2.isDropOf seq) = events := by
    refine List.takeWhile_eq_self_iff.mpr fun event inside => ?_
    rw [Event.isDropOf_of_ne (kept event inside)]
    rfl
  rw [keptTimes, all]

/-- A request that has been cancelled already depends on nothing but its own steps. -/
theorem soloSteps_of_cancelled (engine : Engine) {live : LiveRequest}
    (cancelled : live.cancelled = true) (events : List (Timestamp × Event)) :
    engine.soloSteps live events = engine.stepsAt live (keptTimes live.seq events) := by
  induction events generalizing live with
  | nil => rfl
  | cons event later ih =>
    obtain ⟨now, event⟩ := event
    by_cases step : event = .step live.seq
    · subst step
      have times : keptTimes live.seq ((now, .step live.seq) :: later) =
          now :: keptTimes live.seq later := stepTimes_own live.seq now _
      rw [times, stepsAt]
      cases advanced : engine.advance now live with
      | mk outcome effects =>
        cases outcome with
        | inl reply => exact soloSteps_last advanced later
        | inr phase =>
          have rest := @ih { live with phase := phase } cancelled
          rw [soloSteps_step advanced, rest]
    · by_cases drop : event = .drop live.seq
      · subst drop
        rw [soloSteps_drop]
        simp [keptTimes, stepTimes, Event.isDropOf, stepsAt]
      · have times : keptTimes live.seq ((now, event) :: later) = keptTimes live.seq later := by
          rw [keptTimes, List.takeWhile_cons_of_pos (by simp [Event.isDropOf_of_ne drop])]
          exact stepTimes_other step now _
        rw [soloSteps_other step drop, reachedBy_of_cancelled event cancelled, times, ih cancelled]

/-- The step that answers a cancelled request whose walk is over. -/
def lastStep (controller : Controller) (live : LiveRequest) (now : Timestamp) : Happening :=
  let answered := controller.recover now live.request .cancelled
  { effects := answered.2 ++ closing answered.1, ended := some (live.seq, answered.1) }

/-- The steps that a cancelled request still takes, one after another, each at some time. -/
def remainder (engine : Engine) (live : LiveRequest) : List (Timestamp → Happening) :=
  match live.phase with
  | .arrived =>
    [fun _ => { effects := Effect.warnings (Controller.prepareWarnings live.request) },
      fun _ => {}, lastStep engine.controller live]
  | .walking (.between _) => [fun _ => {}, lastStep engine.controller live]
  | .walking (.inside _ _ run) =>
    [fun now => { effects := (engine.controller.executor.finish true now run).2 },
      lastStep engine.controller live]
  | .walking (.ended _) => [lastStep engine.controller live]

/-- The steps of a list that are taken at some times. -/
def taken (steps : List (Timestamp → Happening)) (times : List Timestamp) : List Happening :=
  (steps.zip times).map fun entry => entry.1 entry.2

section Remainder

variable (engine : Engine) {live : LiveRequest}

theorem stepsAt_cons {phase : Phase} {effects : List Effect} {now : Timestamp}
    (went : engine.advance now live = (.inr phase, effects)) (later : List Timestamp) :
    engine.stepsAt live (now :: later) =
      { effects := effects } :: engine.stepsAt { live with phase := phase } later := by
  rw [stepsAt, went]

theorem stepsAt_ended (times : List Timestamp) :
    engine.stepsAt { live with phase := .walking (.ended (.error .cancelled)) } times =
      taken [lastStep engine.controller live] times := by
  cases times with
  | nil => rfl
  | cons now later => rfl

theorem stepsAt_between {walk : Walk} (cancelled : live.cancelled = true)
    (ahead : walk.stack ≠ []) (times : List Timestamp) :
    engine.stepsAt { live with phase := .walking (.between walk) } times =
      taken [fun _ => {}, lastStep engine.controller live] times := by
  cases times with
  | nil => rfl
  | cons now later =>
    have went : engine.advance now { live with phase := .walking (.between walk) } =
        (.inr (.walking (.ended (.error .cancelled))), []) := by
      simp only [advance, Stage.advance, cancelled, walk.visitNext_cancelled ahead]
    rw [engine.stepsAt_cons went, engine.stepsAt_ended]
    rfl

theorem stepsAt_inside {walk : Walk} {id : String} {run : NodeRun}
    (cancelled : live.cancelled = true) (times : List Timestamp) :
    engine.stepsAt { live with phase := .walking (.inside walk id run) } times =
      taken [fun now => { effects := (engine.controller.executor.finish true now run).2 },
        lastStep engine.controller live] times := by
  cases times with
  | nil => rfl
  | cons now later =>
    have went : engine.advance now { live with phase := .walking (.inside walk id run) } =
        (.inr (.walking (.ended (.error .cancelled))),
          (engine.controller.executor.finish true now run).2) := by
      simp only [advance, Stage.advance, cancelled, Executor.finish_cancelled]
      rfl
    rw [engine.stepsAt_cons went, engine.stepsAt_ended]
    rfl

theorem stepsAt_eq (enabled : engine.controller.enabled = true) (cancelled : live.cancelled = true)
    (pending : live.phase.Pending) (times : List Timestamp) :
    engine.stepsAt live times = taken (engine.remainder live) times := by
  obtain ⟨seq, request, stop, phase⟩ := live
  match phase with
  | .walking (.between walk) => exact engine.stepsAt_between cancelled pending times
  | .walking (.inside walk id run) => exact engine.stepsAt_inside cancelled times
  | .arrived =>
    cases times with
    | nil => rfl
    | cons now later =>
      have went : engine.advance now ⟨seq, request, stop, .arrived⟩ =
          (.inr (.walking (Walk.start engine.controller.root (Controller.prepare request))),
            Effect.warnings (Controller.prepareWarnings request)) := if_pos enabled
      rw [engine.stepsAt_cons went]
      refine congrArg₂ List.cons rfl ?_
      exact @stepsAt_between engine ⟨seq, request, stop, .arrived⟩ _ cancelled
        (List.cons_ne_nil _ _) later

/-- The two engines treat cancelled requests alike, whatever their graphs, predicates, leaves,
capabilities and legacy paths are. -/
structure CancelsLike (first second : Engine) : Prop where
  enabled : first.controller.enabled = second.controller.enabled
  strategy : first.controller.strategy = second.controller.strategy
  traceMode : first.controller.executor.traceMode = second.controller.executor.traceMode
  monitorPerformance : first.controller.executor.monitorPerformance =
    second.controller.executor.monitorPerformance

theorem CancelsLike.remainder_eq {first second : Engine} (alike : first.CancelsLike second)
    (live : LiveRequest) : first.remainder live = second.remainder live := by
  have last : lastStep first.controller live = lastStep second.controller live := by
    funext now
    have replies := first.controller.recover_cancelled now live.request
    have others := second.controller.recover_cancelled now live.request
    rw [alike.strategy] at replies
    have same : first.controller.recover now live.request .cancelled =
        second.controller.recover now live.request .cancelled :=
      Prod.ext (replies.2.trans others.2.symm) (replies.1.trans others.1.symm)
    rw [lastStep, same, lastStep]
  have finished : ∀ (now : Timestamp) (run : NodeRun),
      first.controller.executor.finish true now run =
        second.controller.executor.finish true now run := by
    intro now run
    simp only [Executor.finish_cancelled, Executor.recordOf, alike.traceMode,
      alike.monitorPerformance]
  unfold remainder
  simp only [last, finished]

end Remainder

/-! What these steps come to. -/

/-- What the steps come to that a request takes after it has been cancelled. -/
structure CutShort (engine : Engine) (live : LiveRequest) (steps : List Happening) : Prop where
  /-- No capability is asked for, no decision is kept, and the legacy path is not called. -/
  stops : ∀ effect ∈ effectsOf steps,
    effect.request? = none ∧ effect.decision? = none ∧ effect.legacyCall? = none
  /-- A request that is not inside of a node executes none. -/
  executesNone : live.phase.suspended? = none →
    (effectsOf steps).filterMap Effect.record? = [] ∧
      (effectsOf steps).filterMap Effect.activation? = []
  /-- A request that is inside of a node ends it, and executes no other. -/
  endsNode : ∀ run, live.phase.suspended? = some run → steps ≠ [] →
    ∃ record, (effectsOf steps).filterMap Effect.record? = [record] ∧
      record.correlationId = live.request.correlationId ∧ record.nodeId = run.node.id ∧
      record.errors = ["node execution cancelled"] ∧ record.nextNodes = []
  endsLeaf : ∀ run, live.phase.suspended? = some run → steps ≠ [] →
    ((effectsOf steps).filterMap Effect.activation?).map
        (fun entry => (entry.1, entry.2.correlationId, entry.2.success)) =
      run.work.leaf?.toList.map fun node => (node.id, live.request.correlationId, false)
  answer : ∀ seq reply, Answered steps seq reply → seq = live.seq ∧
    if engine.controller.strategy = .strict then reply = .error (.walk .cancelled)
    else ∃ now, reply = .ok (.apology live.request.correlationId now)

section CutShort

variable {engine : Engine} {live : LiveRequest}

theorem lastStep_warns (controller : Controller) (live : LiveRequest) (now : Timestamp) :
    OnlyWarns (lastStep controller live now).effects := by
  intro effect inside
  rcases List.mem_append.mp inside with recovering | closing
  · rw [(controller.recover_cancelled now live.request).1] at recovering
    exact ⟨_, List.mem_singleton.mp recovering⟩
  · cases reply : (controller.recover now live.request .cancelled).1 with
    | ok result =>
      rw [reply] at closing
      cases closing
    | error error =>
      rw [reply] at closing
      exact ⟨_, List.mem_singleton.mp closing⟩

theorem mem_remainder {times : List Timestamp} {step : Happening}
    (inside : step ∈ taken (engine.remainder live) times) :
    (step.ended = none ∧ OnlyWarns step.effects) ∨
      (∃ now, step = lastStep engine.controller live now) ∨
      ∃ run now, live.phase.suspended? = some run ∧
        step = { effects := (engine.controller.executor.finish true now run).2 } := by
  obtain ⟨place, now, among, rfl⟩ : ∃ place now, place ∈ engine.remainder live ∧
      step = place now := by
    obtain ⟨⟨place, now⟩, paired, rfl⟩ := List.mem_map.mp inside
    exact ⟨place, now, (List.of_mem_zip paired).1, rfl⟩
  have nothing : OnlyWarns [] := fun effect inside => (List.not_mem_nil inside).elim
  unfold remainder at among
  split at among
  · simp only [List.mem_cons, List.not_mem_nil, or_false] at among
    rcases among with rfl | rfl | rfl
    · refine Or.inl ⟨rfl, fun effect inside => ?_⟩
      obtain ⟨warning, -, rfl⟩ := List.mem_map.mp inside
      exact ⟨warning, rfl⟩
    · exact Or.inl ⟨rfl, nothing⟩
    · exact Or.inr (Or.inl ⟨now, rfl⟩)
  · rcases List.mem_pair.mp among with rfl | rfl
    · exact Or.inl ⟨rfl, nothing⟩
    · exact Or.inr (Or.inl ⟨now, rfl⟩)
  · rename_i walk id run inNode
    rcases List.mem_pair.mp among with rfl | rfl
    · exact Or.inr (Or.inr ⟨run, now, by rw [inNode]; rfl, rfl⟩)
    · exact Or.inr (Or.inl ⟨now, rfl⟩)
  · rw [List.mem_singleton.mp among]
    exact Or.inr (Or.inl ⟨now, rfl⟩)

theorem lastStep_mem_taken (engine : Engine) (live : LiveRequest) {times : List Timestamp}
    (enough : 3 ≤ times.length) :
    ∃ now, lastStep engine.controller live now ∈ taken (engine.remainder live) times := by
  match times, enough with
  | first :: second :: third :: _, _ =>
    unfold remainder
    split
    · exact ⟨third, by simp [taken]⟩
    · exact ⟨second, by simp [taken]⟩
    · exact ⟨second, by simp [taken]⟩
    · exact ⟨first, by simp [taken]⟩

theorem warns_of_not_suspended {times : List Timestamp} (outside : live.phase.suspended? = none) :
    OnlyWarns (effectsOf (taken (engine.remainder live) times)) := by
  intro effect inside
  obtain ⟨step, among, does⟩ := List.mem_flatMap.mp inside
  rcases mem_remainder among with ⟨-, warns⟩ | ⟨now, rfl⟩ | ⟨run, now, suspended, -⟩
  · exact warns effect does
  · exact lastStep_warns _ _ now effect does
  · rw [outside] at suspended
    cases suspended

theorem taken_of_suspended {run : NodeRun} {times : List Timestamp}
    (suspended : live.phase.suspended? = some run)
    (nonempty : taken (engine.remainder live) times ≠ []) :
    ∃ now rest, effectsOf (taken (engine.remainder live) times) =
        (engine.controller.executor.finish true now run).2 ++ rest ∧ OnlyWarns rest := by
  obtain ⟨seq, request, stop, phase⟩ := live
  match phase, times with
  | .walking (.inside walk id inner), now :: later =>
    obtain rfl : inner = run := Option.some.inj suspended
    refine ⟨now, _, rfl, fun effect inside => ?_⟩
    obtain ⟨step, among, does⟩ := List.mem_flatMap.mp inside
    cases later with
    | nil => cases among
    | cons endedAt more =>
      rw [List.mem_singleton.mp among] at does
      exact lastStep_warns _ _ endedAt effect does
  | .walking (.inside walk id inner), [] => exact absurd rfl nonempty
  | .arrived, _ => cases suspended
  | .walking (.between _), _ => cases suspended
  | .walking (.ended _), _ => cases suspended

theorem close_effects (work : Work) (startedAt now : Timestamp)
    (result : Except NodeError Context) :
    ∀ effect ∈ (Executor.close work startedAt now result).2,
      ∃ nodeId activation, effect = .activated nodeId activation := by
  intro effect inside
  cases work with
  | leaf node context => exact ⟨_, _, List.mem_singleton.mp inside⟩
  | capability => cases inside

/-- Whatever steps a cancelled request takes, they cut it short. -/
theorem remainder_cutShort (own : live.phase.Of live.request.correlationId)
    (times : List Timestamp) : CutShort engine live (taken (engine.remainder live) times) := by
  have warnedStops : ∀ warning, (Effect.warned warning).request? = none ∧
      (Effect.warned warning).decision? = none ∧ (Effect.warned warning).legacyCall? = none :=
    fun warning => ⟨rfl, rfl, rfl⟩
  have ofRun : ∀ run, live.phase.suspended? = some run →
      run.before.correlationId = live.request.correlationId ∧ Executor.Waits run := by
    intro run suspended
    obtain ⟨seq, request, stop, phase⟩ := live
    match phase with
    | .walking (.inside walk id inner) =>
      obtain rfl : inner = run := Option.some.inj suspended
      exact own
  constructor
  case stops =>
    intro effect inside
    obtain ⟨step, among, does⟩ := List.mem_flatMap.mp inside
    rcases mem_remainder among with ⟨-, warns⟩ | ⟨now, rfl⟩ | ⟨run, now, -, rfl⟩
    · obtain ⟨warning, rfl⟩ := warns effect does
      exact warnedStops warning
    · obtain ⟨warning, rfl⟩ := lastStep_warns _ _ now effect does
      exact warnedStops warning
    · change effect ∈ (engine.controller.executor.finish true now run).2 at does
      rw [Executor.finish_cancelled] at does
      rcases List.mem_append.mp does with closing | recorded
      · obtain ⟨nodeId, activation, rfl⟩ := close_effects _ _ _ _ effect closing
        exact ⟨rfl, rfl, rfl⟩
      · rw [List.mem_singleton.mp recorded]
        exact ⟨rfl, rfl, rfl⟩
  case executesNone =>
    intro outside
    have warns : OnlyWarns (effectsOf (taken (engine.remainder live) times)) :=
      warns_of_not_suspended outside
    exact ⟨warns.filterMap_eq_nil fun _ => rfl, warns.filterMap_eq_nil fun _ => rfl⟩
  case endsNode =>
    intro run suspended nonempty
    obtain ⟨now, rest, effects, warns⟩ := taken_of_suspended suspended nonempty
    obtain ⟨sameId, waits⟩ := ofRun run suspended
    have later : rest.filterMap Effect.record? = [] := warns.filterMap_eq_nil fun _ => rfl
    have closing : (Executor.close run.work run.startedAt now (.error .cancelled)).2.filterMap
        Effect.record? = [] := by
      refine List.filterMap_eq_nil_iff.mpr fun effect inside => ?_
      obtain ⟨nodeId, activation, rfl⟩ := close_effects _ _ _ _ effect inside
      rfl
    rw [effects, Executor.finish_cancelled, List.filterMap_append, List.filterMap_append, later,
      closing]
    exact ⟨_, rfl, sameId, rfl, rfl, rfl⟩
  case endsLeaf =>
    intro run suspended nonempty
    obtain ⟨now, rest, effects, warns⟩ := taken_of_suspended suspended nonempty
    obtain ⟨sameId, waits⟩ := ofRun run suspended
    have later : rest.filterMap Effect.activation? = [] := warns.filterMap_eq_nil fun _ => rfl
    have handed := waits.sameId.trans sameId
    rw [effects, Executor.finish_cancelled, List.filterMap_append, List.filterMap_append, later]
    obtain ⟨node, before, startedAt, work⟩ := run
    cases work with
    | capability => rfl
    | leaf leaf context =>
      change [(leaf.id, context.correlationId, false)] = [(leaf.id, _, false)]
      rw [show context.correlationId = live.request.correlationId from handed]
  case answer =>
    rintro seq reply ⟨step, among, ended⟩
    rcases mem_remainder among with ⟨goesOn, -⟩ | ⟨now, rfl⟩ | ⟨run, now, -, rfl⟩
    · rw [goesOn] at ended
      cases ended
    · obtain ⟨sameSeq, sameReply⟩ := Prod.mk.inj (Option.some.inj ended)
      refine ⟨sameSeq.symm, ?_⟩
      rw [← sameReply, (engine.controller.recover_cancelled now live.request).2]
      split
      · rfl
      · exact ⟨now, rfl⟩
    · cases ended

end CutShort

/-! How requests come to be cancelled. -/

/-- After some events one more event cancels a request whose walk has not ended. The request is
given as it is right after. -/
inductive CancelledBy (engine : Engine) (before : List (Timestamp × Event)) (event : Event) :
    LiveRequest → Prop
  /-- The request is under way: it is cancelled by its id, by a shutdown, or by a newer request of
  the same id. -/
  | underWay {live : LiveRequest}
      (found : (engine.run engine.initial before).find? live.seq = some live)
      (pending : live.phase.Pending)
      (cancels : event.cancels live.request.correlationId = true) :
      CancelledBy engine before event { live with cancelled := true }
  /-- The request is started after a shutdown. -/
  | tooLate {request : Request} (stopped : ∃ earlier ∈ before, earlier.2 = .shutdown)
      (starts : event = .start request) :
      CancelledBy engine before event
        ⟨(engine.run engine.initial before).nextSeq, request, true, .arrived⟩

theorem run_stopped_of_shutdown (engine : Engine) {events : List (Timestamp × Event)}
    (stopped : ∃ event ∈ events, event.2 = .shutdown) :
    (engine.run engine.initial events).stopped = true := by
  obtain ⟨⟨now, event⟩, inside, rfl⟩ := stopped
  obtain ⟨first, later, rfl⟩ := List.append_of_mem inside
  rw [run_append, run_cons]
  refine @run_preserves engine (fun state => state.stopped = true) ?_ _ rfl later
  intro now state event stopped
  by_cases again : event = .shutdown
  · subst again
    rfl
  · exact (engine.handle_stopped now state again).trans stopped

theorem CancelledBy.find?_run {engine : Engine} {before : List (Timestamp × Event)} {event : Event}
    {live : LiveRequest} (cancelled : CancelledBy engine before event live) (now : Timestamp) :
    live.cancelled = true ∧ live.phase.Pending ∧
      (engine.run engine.initial (before ++ [(now, event)])).find? live.seq = some live := by
  have booked := engine.run_booked before
  rw [run_append]
  cases cancelled with
  | @underWay live found pending cancels =>
    refine ⟨rfl, pending, ?_⟩
    have issued := booked.issued live (State.mem_of_find? found).1
    have notStep : event ≠ .step live.seq := by
      rintro rfl
      cases cancels
    have notDrop : event ≠ .drop live.seq := by
      rintro rfl
      cases cancels
    refine (booked.find?_handle engine now issued notStep notDrop).trans ?_
    rw [found, Option.map_some, reachedBy_eq, if_pos cancels]
  | @tooLate request stopped starts =>
    subst starts
    refine ⟨rfl, trivial, ?_⟩
    rw [← engine.run_stopped_of_shutdown stopped]
    exact booked.find?_start_self request

theorem suspended?_of_went {engine : Engine} {now : Timestamp} {live : LiveRequest} {phase : Phase}
    {effects : List Effect} (cancelled : live.cancelled = true)
    (went : engine.advance now live = (.inr phase, effects)) : phase.suspended? = none := by
  rcases went_cases went with ⟨-, -, rfl, -⟩ | ⟨stage, -, goesOn, rfl, -⟩
  · rfl
  · rw [cancelled]
    match stage with
    | .between walk =>
      rw [Stage.advance, Walk.visitNext]
      split <;> rfl
    | .inside walk id run =>
      rw [Stage.advance, Executor.finish_cancelled]
      rfl
    | .ended result => exact absurd rfl (goesOn result)

/-- The request, as long as it is live, is where it was when it was cancelled, or outside of every
node. -/
structure Halted (live : LiveRequest) (state : State) : Prop where
  booked : state.Booked
  issued : live.seq < state.nextSeq
  outside : ∀ still, state.find? live.seq = some still → still.cancelled = true ∧
    (still.phase = live.phase ∨ still.phase.suspended? = none)

theorem Halted.handle {live : LiveRequest} {state : State} (halted : Halted live state)
    (engine : Engine) (now : Timestamp) (event : Event) :
    Halted live (engine.handle now state event).1 := by
  have booked := halted.booked
  refine ⟨booked.handle engine now event,
    Nat.lt_of_lt_of_le halted.issued (State.nextSeq_le_handle engine now state event), ?_⟩
  intro still found
  by_cases step : event = .step live.seq
  · subst step
    have after := (State.find?_stepSeq_self engine now state live.seq).symm.trans found
    obtain ⟨before, here, next⟩ := Option.bind_eq_some_iff.mp after
    obtain ⟨stopped, -⟩ := halted.outside before here
    split at next
    · rename_i phase went
      rw [← Option.some.inj next]
      exact ⟨stopped, Or.inr (suspended?_of_went stopped (Prod.ext went rfl))⟩
    · cases next
  · by_cases drop : event = .drop live.seq
    · subst drop
      rw [State.find?_drop_self] at found
      cases found
    · rw [booked.find?_handle engine now halted.issued step drop] at found
      obtain ⟨before, here, rfl⟩ := Option.map_eq_some_iff.mp found
      obtain ⟨stopped, outside⟩ := halted.outside before here
      rw [reachedBy_of_cancelled event stopped]
      exact ⟨stopped, outside⟩

/-- From the moment that a request is cancelled, its steps do nothing but cut it short, whatever
happens besides, and they bring it into no other node. It is answered if it is not given up and
takes its steps. The graph, the predicates, the leaves, the capabilities and the legacy path have no
part in this: the steps do the same on an engine that has others. -/
theorem cancelled_is_cut_short {engine : Engine} (enabled : engine.controller.enabled = true)
    {before : List (Timestamp × Event)} {event : Event} {live : LiveRequest}
    (cancelled : CancelledBy engine before event live) (now : Timestamp)
    (later : List (Timestamp × Event)) :
    let state := engine.run engine.initial (before ++ [(now, event)])
    let steps := engine.stepsOf live.seq state later
    state.find? live.seq = some live ∧ live.cancelled = true ∧ CutShort engine live steps ∧
      (∀ still, (engine.run state later).find? live.seq = some still →
        still.phase = live.phase ∨ still.phase.suspended? = none) ∧
      ((∀ event ∈ later, event.2 ≠ .drop live.seq) → 3 ≤ (stepTimes live.seq later).length →
        ∃ reply, Answered steps live.seq reply) ∧
      ∀ other : Engine, other.CancelsLike engine →
        other.stepsOf live.seq state later = steps := by
  intro state steps
  obtain ⟨stopped, pending, found⟩ := cancelled.find?_run now
  have orderly : state.Orderly := engine.run_orderly _
  have inside := (State.mem_of_find? found).1
  have known : ∀ other : Engine, other.controller.enabled = true →
      other.stepsOf live.seq state later =
        taken (other.remainder live) (keptTimes live.seq later) := by
    intro other enabledThere
    rw [orderly.booked.stepsOf_eq other live found later, other.soloSteps_of_cancelled stopped,
      other.stepsAt_eq enabledThere stopped pending]
  have here : steps = taken (engine.remainder live) (keptTimes live.seq later) :=
    known engine enabled
  refine ⟨found, stopped, ?_, ?_, ?_, ?_⟩
  · rw [here]
    exact remainder_cutShort (orderly.own live inside) _
  · have halted : Halted live state := by
      refine ⟨orderly.booked, orderly.booked.issued live inside, fun still again => ?_⟩
      obtain rfl : live = still := Option.some.inj (found.symm.trans again)
      exact ⟨stopped, Or.inl rfl⟩
    have atEnd : Halted live (engine.run state later) :=
      engine.run_preserves (fun now _ event halted => halted.handle engine now event) halted later
    exact fun still remains => (atEnd.outside still remains).2
  · intro kept enough
    rw [← keptTimes_eq kept] at enough
    obtain ⟨endedAt, among⟩ := lastStep_mem_taken engine live enough
    rw [here]
    exact ⟨_, _, among, rfl⟩
  · intro other alike
    rw [known other (alike.enabled.trans enabled), alike.remainder_eq, here]

/-! A request that waits for a leaf when a newer request of its id is started. -/

namespace Sample

def slowNode : DecisionNode := { id := "work", behavior := .action ⟨.activate, "patience", []⟩ }

def slowEngine : Engine :=
  Engine.new {} {
      dataFlow := Dict.ofList [("patience", { id := "patience", kind := .processor })]
      decision := Dict.ofList [("work", slowNode)]
      root := "work"
      hasCycle := false }
    Dict.empty (Dict.ofList [("patience", fun _ _ => { delayMs := 5, outcome := .ok Dict.empty })])
    (fun _ => { outcome := .error (.unavailable "nobody to ask") }) (fun _ => .ok "")

def underWay : List (Timestamp × Event) :=
  [(⟨0, false⟩, .start (request "first")), (⟨1, false⟩, .step 0), (⟨2, false⟩, .step 0)]

def afterwards : List (Timestamp × Event) :=
  [(⟨4, false⟩, .step 1), (⟨5, false⟩, .step 0), (⟨6, false⟩, .step 1), (⟨7, false⟩, .step 0),
    (⟨8, false⟩, .step 0)]

end Sample

theorem slow_request_is_cut_short :
    ∃ live, CancelledBy Sample.slowEngine Sample.underWay (.start (Sample.request "first")) live ∧
      live.phase.suspended?.isSome = true ∧
      let steps := Sample.slowEngine.stepsOf live.seq
        (Sample.slowEngine.run Sample.slowEngine.initial
          (Sample.underWay ++ [(⟨3, false⟩, .start (Sample.request "first"))]))
        Sample.afterwards
      CutShort Sample.slowEngine live steps ∧
        ∃ reply, Answered steps live.seq reply := by
  have enabled : Sample.slowEngine.controller.enabled = true := rfl
  obtain ⟨live, here, first, sameId, suspended⟩ : ∃ live : LiveRequest,
      (Sample.slowEngine.run Sample.slowEngine.initial Sample.underWay).find? 0 = some live ∧
        live.seq = 0 ∧ live.request.correlationId = "first" ∧
        live.phase.suspended?.isSome = true :=
    ⟨_, rfl, rfl, rfl, rfl⟩
  rw [← first] at here
  have pending : live.phase.Pending := by
    revert suspended
    match live.phase with
    | .walking (.inside ..) => exact fun _ => trivial
    | .arrived | .walking (.between _) | .walking (.ended _) => exact fun none => by cases none
  have cancelled : CancelledBy Sample.slowEngine Sample.underWay (.start (Sample.request "first"))
      { live with cancelled := true } :=
    .underWay here pending (by rw [sameId]; rfl)
  obtain ⟨-, -, cutShort, -, ends, -⟩ :=
    cancelled_is_cut_short enabled cancelled ⟨3, false⟩ Sample.afterwards
  refine ⟨_, cancelled, suspended, cutShort, ends ?_ ?_⟩
  · simp [Sample.afterwards]
  · rw [show ({ live with cancelled := true } : LiveRequest).seq = 0 from first]
    decide

end Engine

end Switchyard
