import Switchyard.Proofs.Engine.Calls
import Switchyard.Proofs.Execution.Consultation
import Switchyard.Proofs.Trace.AppendOnly
import Switchyard.Proofs.Trace.Removal
set_option autoImplicit false

/-! Decisions and traces stay in step. A ledger of a run files every record with the last question
that its request had asked by then; what is left of the trace of an id is the end of its file, and
the decision held for the id is the one behind the last answered record of it. Main statement:
`Engine.decisions_stand_behind_traces`. -/
namespace Switchyard

open Recorder (IsTraceOf)

namespace Engine

/-- What the requests of a run have asked last, by their sequence numbers, and what has been
recorded. -/
structure Ledger where
  asked : Nat → Option CapabilityRequest := fun _ => none
  filings : List Filing := []

namespace Ledger

/-- The ledger after an event with these effects. -/
def enter (ledger : Ledger) (effects : List Effect) : Event → Ledger
  | .step seq =>
    let question := lastQuestion (ledger.asked seq) effects
    { asked := fun other => if other = seq then question else ledger.asked other
      filings := ledger.filings ++
        (effects.filterMap Effect.record?).map fun record => ⟨record, question⟩ }
  | .start _ | .drop _ | .cancel _ | .shutdown | .purge _ => ledger

/-- What has been filed under an id. -/
def fileOf (ledger : Ledger) (id : String) : List Filing :=
  ledger.filings.filter fun filing => filing.record.correlationId = id

theorem asked_enter (ledger : Ledger) (effects : List Effect) {event : Event} {seq : Nat}
    (other : event ≠ .step seq) : (ledger.enter effects event).asked seq = ledger.asked seq := by
  cases event with
  | step stepped =>
    have different : seq ≠ stepped := fun same => other (congrArg Event.step same.symm)
    exact if_neg different
  | start | drop | cancel | shutdown | purge => rfl

theorem fileOf_enter_of_ne (ledger : Ledger) {effects : List Effect} {event : Event} {id : String}
    (others : ∀ seq, event = .step seq → ∀ record, .recorded record ∈ effects →
      record.correlationId ≠ id) : (ledger.enter effects event).fileOf id = ledger.fileOf id := by
  cases event with
  | step seq =>
    unfold fileOf enter
    rw [List.filter_append]
    have nothing : (((effects.filterMap Effect.record?).map fun record =>
        Filing.mk record (lastQuestion (ledger.asked seq) effects)).filter
          fun filing => filing.record.correlationId = id) = [] := by
      apply List.filter_eq_nil_iff.mpr
      intro filing inside
      obtain ⟨record, made, rfl⟩ := List.mem_map.mp inside
      have foreign := others seq rfl record (Effect.mem_filterMap_record?.mp made)
      simp [foreign]
    rw [nothing, List.append_nil]
  | start | drop | cancel | shutdown | purge => rfl

theorem fileOf_enter_own (ledger : Ledger) {effects : List Effect} {id : String} (seq : Nat)
    (own : ∀ effect ∈ effects, effect.IsOf id) :
    (ledger.enter effects (.step seq)).fileOf id =
      ledger.fileOf id ++ (effects.filterMap Effect.record?).map fun record =>
        ⟨record, lastQuestion (ledger.asked seq) effects⟩ := by
  unfold fileOf enter
  rw [List.filter_append]
  congr 1
  apply List.filter_eq_self.mpr
  intro filing inside
  obtain ⟨record, made, rfl⟩ := List.mem_map.mp inside
  have sameId : record.correlationId = id := own _ (Effect.mem_filterMap_record?.mp made)
  exact decide_eq_true sameId

end Ledger

def ledgerAlong (engine : Engine) (state : State) (ledger : Ledger) :
    List (Timestamp × Event) → Ledger
  | [] => ledger
  | (now, event) :: later =>
    let (after, happening) := engine.handle now state event
    engine.ledgerAlong after (ledger.enter happening.effects event) later

/-- The recorder keeps these filings of an id: its trace holds their records, and its decision is the
last of those behind them. -/
structure Keeps (engine : Engine) (recorder : Recorder) (id : String) (kept : List Filing) :
    Prop where
  trace : IsTraceOf (kept.map (·.record)) (recorder.traces id)
  decision : recorder.decision? id =
    (kept.filterMap (Filing.decision? engine.controller.executor)).getLast?
  answered : ∀ filing ∈ kept, filing.record.answered = true →
    (filing.decision? engine.controller.executor).isSome = true

section Keeps

variable {engine : Engine} {recorder after : Recorder} {id : String} {kept : List Filing}

theorem keeps_nothing (engine : Engine) (gone : recorder.held id = (none, none)) :
    Keeps engine recorder id [] := by
  have logs : recorder.logs.get? id = none := congrArg Prod.fst gone
  have decision : recorder.decision? id = none := congrArg Prod.snd gone
  refine ⟨?_, decision, List.forall_mem_nil _⟩
  rw [Recorder.traces, logs]
  exact IsTraceOf.nil

theorem Keeps.of_held (keeps : Keeps engine recorder id kept)
    (same : after.held id = recorder.held id) : Keeps engine after id kept := by
  refine ⟨?_, ?_, keeps.answered⟩
  · rw [Recorder.traces_of_held same]
    exact keeps.trace
  · rw [Recorder.decision?_of_held same]
    exact keeps.decision

/-- Calls that do not concern the id keep all that is kept of it, or nothing. -/
theorem Keeps.run_others (keeps : Keeps engine recorder id kept) {calls : List Recorder.Call}
    (others : ∀ call ∈ calls, ¬ call.Concerns id) :
    Keeps engine (recorder.run calls) id kept ∨ Keeps engine (recorder.run calls) id [] := by
  rcases @Recorder.run_held_cases recorder id calls others with same | gone
  · exact Or.inl (keeps.of_held same)
  · exact Or.inr (keeps_nothing engine gone)

theorem Keeps.applyAll (keeps : Keeps engine recorder id kept) (now : Timestamp)
    {question : Option CapabilityRequest} {effects : List Effect}
    (squares : Squares engine.controller.executor question effects)
    (own : ∀ effect ∈ effects, effect.IsOf id) :
    Keeps engine (recorder.applyAll now effects) id
      (kept ++ (effects.filterMap Effect.record?).map fun record => ⟨record, question⟩) := by
  have records : ((effects.filterMap Effect.record?).map fun record =>
      Filing.mk record question).map (·.record) = effects.filterMap Effect.record? := by
    rw [List.map_map]
    exact List.map_id _
  have decisions : ((effects.filterMap Effect.record?).map fun record =>
      Filing.mk record question).filterMap (Filing.decision? engine.controller.executor) =
      (effects.filterMap Effect.decision?).map (·.2) := by
    rw [squares.decisions, List.filterMap_map]
    rfl
  refine ⟨?_, ?_, ?_⟩
  · rw [List.map_append, records, Recorder.traces_applyAll now recorder own]
    exact keeps.trace.foldl _
  · rw [List.filterMap_append, decisions, Recorder.decision?_applyAll now recorder own,
      Recorder.latestDecision, List.getLast?_append, keeps.decision, List.getLast?_map]
  · refine List.forall_mem_append.mpr ⟨keeps.answered, fun filing inside => ?_⟩
    obtain ⟨record, made, rfl⟩ := List.mem_map.mp inside
    exact squares.answered record made

end Keeps

namespace State

variable {engine : Engine} {state : State}

/-- The event is a step of a walk of the id that is not over. -/
def StepsFor (state : State) (id : String) (event : Event) : Prop :=
  ∃ live ∈ state.live, live.request.correlationId = id ∧ event = .step live.seq ∧
    ∃ stage, live.phase = .walking stage ∧ ∀ result, stage ≠ .ended result

theorem Orderly.stepsFor_of_stepLeaves (orderly : state.Orderly) {now : Timestamp} {event : Event}
    {effect : Effect} (leaves : engine.StepLeaves now state event effect) :
    ∃ id, state.StepsFor id event ∧ effect.IsOf id := by
  obtain ⟨live, inside, isStep, stage, walking, done⟩ := leaves
  have own := orderly.own live inside
  rw [walking] at own
  obtain ⟨-, isOf⟩ := Stage.of_advance engine.controller.executor live.cancelled now own
  refine ⟨_, ⟨live, inside, rfl, isStep, stage, walking, ?_⟩, isOf effect done⟩
  intro result isOver
  rw [isOver] at done
  cases done

theorem Orderly.stepsFor_of_concerns (orderly : state.Orderly) {now : Timestamp} {event : Event}
    {call : Recorder.Call} {id : String} (inside : call ∈ engine.calls now state event)
    (concerns : call.Concerns id) : state.StepsFor id event := by
  have origin := engine.origin_of_calls inside
  cases call with
  | record time made =>
    obtain ⟨owner, steps, sameId⟩ := orderly.stepsFor_of_stepLeaves origin
    have same : owner = id := sameId.symm.trans concerns
    rw [← same]
    exact steps
  | recordDecision decided decision =>
    obtain ⟨owner, steps, sameId⟩ := orderly.stepsFor_of_stepLeaves origin
    have same : owner = id := sameId.symm.trans concerns
    rw [← same]
    exact steps
  | beginRequest | recordActivation | finishRequest | purgeBefore => exact concerns.elim

/-- The accounts are right, walks that are inside a node wait for what it has handed out, and of
every file the end is kept. -/
structure Steady (engine : Engine) (ledger : Ledger) (state : State) : Prop where
  orderly : state.Orderly
  entered : ∀ live ∈ state.live, ∀ stage, live.phase = .walking stage →
    stage.Entered engine.controller.executor (ledger.asked live.seq)
  kept : ∀ id, ∃ earlier kept, ledger.fileOf id = earlier ++ kept ∧
    Keeps engine state.recorder id kept

section Steady

variable {ledger : Ledger}

theorem Steady.entered_handle (steady : state.Steady engine ledger) (now : Timestamp)
    (event : Event) :
    ∀ live ∈ (engine.handle now state event).1.live, ∀ stage, live.phase = .walking stage →
      stage.Entered engine.controller.executor
        ((ledger.enter (engine.handle now state event).2.effects event).asked live.seq) := by
  intro live inside stage walking
  rcases steady.orderly.booked.mem_handle engine now event inside with
    ⟨request, -, rfl⟩ | ⟨before, beforeInside, continues⟩
  · cases walking
  · rw [continues.seq]
    by_cases isStep : event = .step before.seq
    · obtain ⟨effects, went⟩ := continues.goes isStep
      have found := steady.orderly.booked.find?_eq beforeInside
      have left : (engine.stepSeq now state before.seq).2.effects = effects := by
        rw [stepSeq_went found went]
      rw [isStep]
      change stage.Entered _ (if before.seq = before.seq then
        lastQuestion _ (engine.stepSeq now state before.seq).2.effects else _)
      rw [if_pos rfl, left]
      rw [walking] at went
      rcases went_cases went with ⟨-, -, begun, -⟩ | ⟨earlier, itsWalk, -, stepped, done⟩
      · rw [Phase.walking.inj begun]
        trivial
      · have entered := steady.entered before beforeInside earlier itsWalk
        rw [Phase.walking.inj stepped, done]
        exact (Stage.consults_advance entered before.cancelled now).entered
    · rw [continues.waits isStep] at walking
      rw [ledger.asked_enter _ isStep]
      exact steady.entered before beforeInside stage walking

theorem Steady.keeps_step (steady : state.Steady engine ledger) (now : Timestamp) {event : Event}
    {id : String} (steps : state.StepsFor id event) {kept : List Filing}
    (keeps : Keeps engine state.recorder id kept) :
    ∃ added,
      (ledger.enter (engine.handle now state event).2.effects event).fileOf id =
        ledger.fileOf id ++ added ∧
      Keeps engine (engine.handle now state event).1.recorder id (kept ++ added) := by
  obtain ⟨live, inside, rfl, rfl, stage, walking, goesOn⟩ := steps
  have found := steady.orderly.booked.find?_eq inside
  have consults := Stage.consults_advance (steady.entered live inside stage walking) live.cancelled
    now
  have own := steady.orderly.own live inside
  rw [walking] at own
  obtain ⟨-, isOf⟩ := Stage.of_advance engine.controller.executor live.cancelled now own
  have went : engine.advance now live =
      (.inr (.walking (stage.advance engine.controller.executor live.cancelled now).1),
        (stage.advance engine.controller.executor live.cancelled now).2) := by
    unfold advance
    rw [walking]
    cases stage with
    | ended result => exact absurd rfl (goesOn result)
    | between walk => rfl
    | inside walk id run => rfl
  simp only [handle, stepSeq_went found went]
  refine ⟨_, ledger.fileOf_enter_own live.seq isOf, ?_⟩
  exact keeps.applyAll now consults.squares isOf

theorem Steady.keeps_others (steady : state.Steady engine ledger) (now : Timestamp) {event : Event}
    {id : String} (others : ¬ state.StepsFor id event) {kept : List Filing}
    (keeps : Keeps engine state.recorder id kept) :
    (ledger.enter (engine.handle now state event).2.effects event).fileOf id = ledger.fileOf id ∧
      (Keeps engine (engine.handle now state event).1.recorder id kept ∨
        Keeps engine (engine.handle now state event).1.recorder id []) := by
  constructor
  · apply ledger.fileOf_enter_of_ne
    intro seq isStep record done sameId
    rw [isStep] at done
    have leaves : engine.StepLeaves now state (.step seq) (.recorded record) :=
      engine.stepLeaves_of_loud done fun impossible => impossible
    obtain ⟨owner, steps, ownRecord⟩ := steady.orderly.stepsFor_of_stepLeaves leaves
    have sameOwner : owner = id := ownRecord.symm.trans sameId
    rw [sameOwner, ← isStep] at steps
    exact others steps
  · have nothing : ∀ call ∈ engine.calls now state event, ¬ call.Concerns id :=
      fun call inside concerns => others (steady.orderly.stepsFor_of_concerns inside concerns)
    rw [handle_recorder]
    exact keeps.run_others nothing

theorem Steady.handle (steady : state.Steady engine ledger) (now : Timestamp) (event : Event) :
    (engine.handle now state event).1.Steady engine
      (ledger.enter (engine.handle now state event).2.effects event) := by
  refine ⟨steady.orderly.handle engine now event, steady.entered_handle now event, fun id => ?_⟩
  obtain ⟨earlier, kept, filed, keeps⟩ := steady.kept id
  by_cases steps : state.StepsFor id event
  · obtain ⟨added, filedNow, keepsNow⟩ := steady.keeps_step now steps keeps
    refine ⟨earlier, kept ++ added, ?_, keepsNow⟩
    rw [filedNow, filed, List.append_assoc]
  · obtain ⟨filedNow, still | gone⟩ := steady.keeps_others now steps keeps
    · exact ⟨earlier, kept, filedNow.trans filed, still⟩
    · exact ⟨earlier ++ kept, [], by rw [filedNow, filed, List.append_nil], gone⟩

theorem Steady.run (steady : state.Steady engine ledger) (events : List (Timestamp × Event)) :
    (engine.run state events).Steady engine (engine.ledgerAlong state ledger events) := by
  induction events generalizing state ledger with
  | nil => exact steady
  | cons event later ih => exact ih (steady.handle event.1 event.2)

end Steady

end State

theorem initial_steady (engine : Engine) : engine.initial.Steady engine {} :=
  ⟨engine.run_orderly [], fun _ inside => (List.not_mem_nil inside).elim,
    fun _ => ⟨[], [], rfl, keeps_nothing engine rfl⟩⟩

section Keeps

variable {engine : Engine} {recorder : Recorder} {id : String} {kept : List Filing}

theorem Keeps.decision_eq (keeps : Keeps engine recorder id kept) :
    recorder.decision? id = (kept.filter fun filing => filing.record.answered).getLast?.bind
      (Filing.decision? engine.controller.executor) := by
  rw [keeps.decision]
  have answered := keeps.answered
  clear keeps
  induction kept using List.reverseRecOn with
  | nil => rfl
  | append_singleton earlier last ih =>
    obtain ⟨answeredEarlier, answeredLast⟩ := List.forall_mem_append.mp answered
    rw [List.filterMap_append, List.filter_append]
    by_cases isAnswered : last.record.answered = true
    · have decided := answeredLast last (List.mem_singleton_self last) isAnswered
      obtain ⟨decision, behind⟩ := Option.isSome_iff_exists.mp decided
      have one : [last].filterMap (Filing.decision? engine.controller.executor) = [decision] := by
        rw [List.filterMap_cons, behind]
        rfl
      have kept : ([last].filter fun filing => filing.record.answered) = [last] := by
        rw [List.filter_cons, if_pos isAnswered]
        rfl
      rw [one, kept, List.getLast?_concat, List.getLast?_concat, Option.bind_some, behind]
    · have nothing : [last].filterMap (Filing.decision? engine.controller.executor) = [] := by
        rw [List.filterMap_cons, Filing.decision?, if_neg isAnswered]
        rfl
      have dropped : ([last].filter fun filing => filing.record.answered) = [] := by
        rw [List.filter_cons, if_neg isAnswered]
        rfl
      rw [nothing, dropped, List.append_nil, List.append_nil]
      exact ih answeredEarlier

theorem Keeps.last_answered (keeps : Keeps engine recorder id kept) :
    match (kept.filter fun filing => filing.record.answered).getLast? with
    | none => recorder.decision? id = none
    | some filing => ∃ request decision, filing.question = some request ∧
        (engine.controller.executor.capability request).outcome = .ok decision ∧
        recorder.decision? id = some decision := by
  have decision := keeps.decision_eq
  cases found : (kept.filter fun filing => filing.record.answered).getLast? with
  | none =>
    rw [found] at decision
    exact decision
  | some filing =>
    rw [found, Option.bind_some] at decision
    obtain ⟨inside, isAnswered⟩ := List.mem_filter.mp (List.mem_of_getLast? found)
    obtain ⟨made, behind⟩ := Option.isSome_iff_exists.mp (keeps.answered filing inside isAnswered)
    have answer := behind
    rw [Filing.decision?, if_pos isAnswered] at answer
    obtain ⟨request, asked, replied⟩ := Option.bind_eq_some_iff.mp answer
    refine ⟨request, made, asked, ?_, decision.trans behind⟩
    cases outcome : (engine.controller.executor.capability request).outcome with
    | ok other =>
      rw [outcome] at replied
      exact congrArg Except.ok (Option.some.inj replied)
    | error error =>
      rw [outcome] at replied
      cases replied

theorem Keeps.isSome_decision (keeps : Keeps engine recorder id kept) :
    (recorder.decision? id).isSome = true ↔
      ∃ record ∈ recorder.traces id, record.answered = true := by
  have last := keeps.last_answered
  constructor
  · intro decided
    cases found : (kept.filter fun filing => filing.record.answered).getLast? with
    | none =>
      rw [found] at last
      rw [last] at decided
      cases decided
    | some filing =>
      obtain ⟨inside, isAnswered⟩ := List.mem_filter.mp (List.mem_of_getLast? found)
      obtain ⟨time, held⟩ := keeps.trace.mem_of_made (List.mem_map_of_mem inside)
      exact ⟨_, held, isAnswered⟩
  · rintro ⟨record, held, isAnswered⟩
    obtain ⟨first, made, time, rfl⟩ := keeps.trace.made_of_mem held
    obtain ⟨filing, inside, rfl⟩ := List.mem_map.mp made
    cases found : (kept.filter fun filing => filing.record.answered).getLast? with
    | none =>
      have nothing := List.getLast?_eq_none_iff.mp found
      have among : filing ∈ kept.filter fun filing => filing.record.answered :=
        List.mem_filter.mpr ⟨inside, isAnswered⟩
      rw [nothing] at among
      cases among
    | some other =>
      rw [found] at last
      obtain ⟨request, decision, -, -, decided⟩ := last
      rw [decided]
      rfl

end Keeps

theorem answered_iff (record : TraceRecord) :
    record.answered = true ↔ record.nodeKind = .capability ∧ record.errors = [] := by
  simp [TraceRecord.answered]

/-- In every state that any events lead to, a decision is held for an id exactly if the trace that is
held for it has an answered record: that of a capability node without an error. What is held of the
trace are the last records filed under the id, and the decision is what the capability orchestrator
answers to the question behind the last answered one of them, which is the last one that its request
had asked by then. Purging what has expired is no exception, it is a purge like any other. -/
theorem decisions_stand_behind_traces (engine : Engine) (events : List (Timestamp × Event))
    (id : String) :
    let recorder := (engine.run engine.initial events).recorder
    ((recorder.decision? id).isSome = true ↔
      ∃ record ∈ recorder.traces id, record.nodeKind = .capability ∧ record.errors = []) ∧
    (∃ earlier kept,
      (engine.ledgerAlong engine.initial {} events).fileOf id = earlier ++ kept ∧
      IsTraceOf (kept.map (·.record)) (recorder.traces id) ∧
      match (kept.filter fun filing => filing.record.answered).getLast? with
      | none => recorder.decision? id = none
      | some filing => ∃ request decision, filing.question = some request ∧
          (engine.controller.executor.capability request).outcome = .ok decision ∧
          recorder.decision? id = some decision) ∧
    ∀ now, ∀ purged ∈ recorder.purgeExpired? now, ∃ cutoff,
      purged.1 = (engine.run engine.initial (events ++ [(now, .purge cutoff)])).recorder := by
  intro recorder
  have steady := engine.initial_steady.run events
  obtain ⟨earlier, kept, filed, keeps⟩ := steady.kept id
  refine ⟨?_, ⟨earlier, kept, filed, keeps.trace, keeps.last_answered⟩, ?_⟩
  · have decided := keeps.isSome_decision
    simp only [answered_iff] at decided
    exact decided
  · intro now purged inside
    obtain ⟨cutoff, -, rfl⟩ := Option.map_eq_some_iff.mp inside
    refine ⟨cutoff, ?_⟩
    rw [run_append]
    rfl

namespace Sample

/-- An engine with one capability node, whose orchestrator answers nothing but the first message. -/
def consultingEngine : Engine :=
  Engine.new {} {
      dataFlow := Dict.empty
      decision := Dict.ofList
        [("ask", { id := "ask", behavior := .capability ⟨.activate, "reasoning", []⟩ })]
      root := "ask"
      hasCycle := false }
    Dict.empty Dict.empty
    (fun request => ⟨0, if request.content = "first" then .ok ⟨["reasoning"], 1, 1⟩
      else .error (.unavailable "nobody to ask")⟩) (fun _ => .ok "")

def consultations : List (Timestamp × Event) :=
  (⟨0, false⟩, .start ⟨"same", .str "first", Dict.empty⟩) ::
    List.replicate 4 (⟨1, false⟩, .step 0) ++
  (⟨2, false⟩, .start ⟨"same", .str "second", Dict.empty⟩) ::
    List.replicate 4 (⟨3, false⟩, .step 1)

end Sample

/-- A call that fails leaves the older decision alone. -/
example :
    let recorder := (Sample.consultingEngine.run Sample.consultingEngine.initial
      Sample.consultations).recorder
    (recorder.traces "same").map TraceRecord.answered = [true, false] ∧
      (recorder.decision? "same").map (·.selected) = some ["reasoning"] := by
  decide +kernel

end Engine

end Switchyard
