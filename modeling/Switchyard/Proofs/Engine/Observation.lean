import Switchyard.Proofs.Engine.Clocks
import Switchyard.Proofs.Engine.Records
import Switchyard.Proofs.Engine.Watched
set_option autoImplicit false

/-! How closely an engine is watched changes nothing of what it does, and by which clock it runs
changes nothing either. Main statement: `Engine.watching_changes_nothing`. -/
namespace Switchyard

/-! What is left when the times are taken out, and all that depends on how closely one watches. -/

def TraceRecord.outline (record : TraceRecord) : TraceRecord :=
  { record with
    timestamp := default
    inputsSummary := .null
    outputsSummary := .null
    performance := ⟨default, default, 0, none⟩ }

/-- Nothing is left of a notice of missing inputs. -/
def Effect.outline? : Effect → Option Effect
  | .recorded record => some (.recorded record.outline)
  | .warned (.missingInputs ..) => none
  | effect => some effect.untimed

def Engine.Happening.outline (happening : Engine.Happening) : Engine.Happening where
  effects := happening.effects.filterMap Effect.outline?
  ended := happening.ended.map fun ended => (ended.1, ended.2.untimed)

theorem outline_untimed (happening : Engine.Happening) :
    happening.untimed.outline = happening.outline := by
  have effects : (happening.effects.map Effect.untimed).filterMap Effect.outline? =
      happening.effects.filterMap Effect.outline? := by
    rw [List.filterMap_map]
    congr 1
    funext effect
    cases effect with
    | warned warning => cases warning <;> rfl
    | _ => rfl
  have ended : (happening.ended.map fun ended => (ended.1, ended.2.untimed)).map
      (fun ended => (ended.1, ended.2.untimed)) =
      happening.ended.map fun ended => (ended.1, ended.2.untimed) := by
    cases happening.ended with
    | none => rfl
    | some ended =>
      obtain ⟨seq, reply⟩ := ended
      cases reply <;> rfl
  unfold Engine.Happening.outline Engine.Happening.untimed
  rw [effects, ended]

theorem Watch.outline_happening (watch : Watch) (happening : Engine.Happening) :
    (watch.happening happening).outline = happening.outline := by
  have effects : (watch.effects happening.effects).filterMap Effect.outline? =
      happening.effects.filterMap Effect.outline? := by
    rw [Watch.effects, List.filterMap_filterMap]
    congr 1
    funext effect
    cases effect with
    | warned warning =>
      cases warning with
      | missingInputs nodeId id missing =>
        simp only [Watch.effect?]
        cases watch.validated <;> rfl
      | _ => rfl
    | _ => rfl
  unfold Engine.Happening.outline Watch.happening
  rw [effects]

/-! Summaries. -/

/-- What is kept in a mode of an object that is kept in full: all of it, its keys in ascending order,
or nothing. -/
def SummaryOf (mode : TraceMode) (whole part : Json) : Prop :=
  match mode with
  | .full => part = whole
  | .essential => ∃ fields, whole = .obj fields ∧
      (fields.map (·.1)).Pairwise (· < ·) ∧ part = Json.texts (fields.map (·.1))
  | .minimal => part = .null

/-- The summaries of a record are what is kept in a mode of those of another. -/
structure SummedUp (mode : TraceMode) (whole part : TraceRecord) : Prop where
  inputs : SummaryOf mode whole.inputsSummary part.inputsSummary
  outputs : SummaryOf mode whole.outputsSummary part.outputsSummary

theorem summaryOf_see (mode : TraceMode) (values : Dict Json) :
    SummaryOf mode (Recorder.summarize .full values)
      (mode.see (Recorder.summarize .full values)) := by
  cases mode with
  | full => rfl
  | minimal => rfl
  | essential =>
    refine ⟨_, rfl, ?_, rfl⟩
    exact List.pairwise_map.mpr (values.map fun _ value => Recorder.cut value).ordered

/-- The record keeps its contexts in full. -/
def TraceRecord.IsFull (record : TraceRecord) : Prop :=
  ∃ inputs outputs, record.inputsSummary = Recorder.summarize .full inputs ∧
    record.outputsSummary = Recorder.summarize .full outputs

theorem Executor.recordOf_isFull {executor : Executor} (full : executor.traceMode = .full)
    (node : DecisionNode) (before : Context) (startedAt now : Timestamp)
    (decision : Option DecisionOutcome) (result : Except NodeError NodeOutcome) :
    (executor.recordOf node before startedAt now decision result).IsFull := by
  unfold recordOf TraceRecord.IsFull
  rw [full]
  exact ⟨_, _, rfl, rfl⟩

/-- In full mode every trace keeps its contexts in full. -/
theorem Engine.traces_full {engine : Engine}
    (full : engine.controller.executor.traceMode = .full) (events : List (Timestamp × Event))
    (id : String) :
    ∀ record ∈ (engine.run engine.initial events).recorder.traces id, record.IsFull := by
  intro record inside
  obtain ⟨written, time, ⟨node, before, startedAt, endedAt, result, rfl⟩, rfl⟩ :=
    exists_written events id inside
  exact Executor.recordOf_isFull full node before startedAt endedAt
    (engine.controller.executor.decision? node before) result

/-! Traces that two watches have seen. -/

/-- Two traces are the same apart from the times and from what their watches keep; and what one of
them keeps in full, the other keeps in its mode. -/
structure SeenAlike (one other : Watch) (trace otherTrace : List TraceRecord) : Prop where
  outline : trace.map TraceRecord.outline = otherTrace.map TraceRecord.outline
  summaries : one.mode = .full → List.Forall₂ (SummedUp other.mode) trace otherTrace

theorem seenAlike_of_untimed (one other : Watch) {whole otherWhole : List TraceRecord}
    (same : whole.map TraceRecord.untimed = otherWhole.map TraceRecord.untimed)
    (full : ∀ record ∈ whole, record.IsFull) :
    SeenAlike one other (whole.map one.record) (otherWhole.map other.record) := by
  induction whole generalizing otherWhole with
  | nil =>
    have nothing : otherWhole = [] := List.map_eq_nil_iff.mp same.symm
    rw [nothing]
    exact ⟨rfl, fun _ => .nil⟩
  | cons record rest ih =>
    cases otherWhole with
    | nil => cases same
    | cons otherRecord otherRest =>
      obtain ⟨sameRecord, sameRest⟩ := List.cons_eq_cons.mp same
      obtain ⟨⟨inputs, outputs, keptInputs, keptOutputs⟩, fullRest⟩ := List.forall_mem_cons.mp full
      obtain ⟨outline, summaries⟩ := ih sameRest fullRest
      have sameInputs : record.inputsSummary = otherRecord.inputsSummary :=
        congrArg (·.inputsSummary) sameRecord
      have sameOutputs : record.outputsSummary = otherRecord.outputsSummary :=
        congrArg (·.outputsSummary) sameRecord
      constructor
      · have untimed : record.untimed.outline = otherRecord.untimed.outline :=
          congrArg TraceRecord.outline sameRecord
        have sameOutline : (one.record record).outline = (other.record otherRecord).outline :=
          untimed
        rw [List.map_cons, List.map_cons, List.map_cons, List.map_cons, sameOutline, outline]
      · intro isFull
        refine .cons ⟨?_, ?_⟩ (summaries isFull)
        · change SummaryOf other.mode (one.mode.see record.inputsSummary)
            (other.mode.see otherRecord.inputsSummary)
          rw [isFull, ← sameInputs, keptInputs]
          exact summaryOf_see other.mode inputs
        · change SummaryOf other.mode (one.mode.see record.outputsSummary)
            (other.mode.see otherRecord.outputsSummary)
          rw [isFull, ← sameOutputs, keptOutputs]
          exact summaryOf_see other.mode outputs

theorem outlines_happenings (watch : Watch) (happenings : List Engine.Happening) :
    (happenings.map watch.happening).map Engine.Happening.outline =
      (happenings.map Engine.Happening.untimed).map Engine.Happening.outline := by
  rw [List.map_map, List.map_map]
  apply List.map_congr_left
  intro happening _
  exact (watch.outline_happening happening).trans (outline_untimed happening).symm

namespace Engine

/-- Two engines that differ only in how closely they are watched do the same when the same events
reach them, each at times of its own: every event has the same effects, apart from notices of missing
inputs, and ends the same request with the same reply, and the leaves leave the same activations. If
they run by one clock, or if there is room for everything, they hold the same traces and the same
decisions; what a trace keeps in full mode, the other keeps in its own. -/
theorem watching_changes_nothing (settings : Settings) (registry : Registry)
    (predicates : Dict Predicate) (handlers : Dict LeafHandler)
    (capability : CapabilityRequest → CapabilityReply) (legacy : LegacyPath)
    (one other : Watch) (moments : List Moment) :
    let engine := fun watch : Watch =>
      Engine.new (settings.watchedBy watch) registry predicates handlers capability legacy
    let first := (engine one).run (engine one).initial (moments.map Moment.byFirst)
    let second := (engine other).run (engine other).initial (moments.map Moment.bySecond)
    ((engine one).happenings (engine one).initial (moments.map Moment.byFirst)).map
        Happening.outline =
      ((engine other).happenings (engine other).initial (moments.map Moment.bySecond)).map
        Happening.outline ∧
    (∀ nodeId, (first.recorder.activationsOf nodeId).map NodeActivation.untimed =
      (second.recorder.activationsOf nodeId).map NodeActivation.untimed) ∧
    ((engine one).Comparable moments → ∀ id,
      SeenAlike one other (first.recorder.traces id) (second.recorder.traces id) ∧
      first.recorder.decision? id = second.recorder.decision? id) := by
  intro engine first second
  let base := Engine.new settings registry predicates handlers capability legacy
  let everything := base.watchedBy .everything
  have ran : ∀ (watch : Watch) (events : List (Timestamp × Event)),
      (engine watch).run (engine watch).initial events =
        watch.state (everything.run everything.initial events) :=
    fun watch events => base.run_watchedBy watch everything.initial events
  have happened : ∀ (watch : Watch) (events : List (Timestamp × Event)),
      (engine watch).happenings (engine watch).initial events =
        (everything.happenings everything.initial events).map watch.happening :=
    fun watch events => base.happenings_watchedBy watch everything.initial events
  have alike : everything.initial.Alike everything.initial := ⟨rfl, rfl, rfl, rfl⟩
  refine ⟨?_, ?_, ?_⟩
  · have same := (everything.run_clocks alike moments).1
    rw [happened, happened, outlines_happenings, outlines_happenings, same]
  · intro nodeId
    simp only [first, second, ran]
    exact everything.activations_run_clocks moments nodeId
  · intro comparable id
    have everywhere : everything.Comparable moments :=
      comparable.imp_right fun roomy => ⟨roomy.room, roomy.unpurged⟩
    obtain ⟨traces, decision⟩ := everywhere.held id
    have inFull : everything.controller.executor.traceMode = .full := rfl
    have full := traces_full inFull (moments.map Moment.byFirst) id
    simp only [first, second, ran]
    refine ⟨?_, decision⟩
    change SeenAlike one other ((one.recorder _).traces id) ((other.recorder _).traces id)
    rw [Watch.traces_recorder, Watch.traces_recorder]
    exact seenAlike_of_untimed one other traces full

namespace Sample

def moments : List Moment :=
  [⟨⟨0, false⟩, ⟨50, false⟩, .start (request "only")⟩, ⟨⟨1, false⟩, ⟨60, false⟩, .step 0⟩,
    ⟨⟨2, false⟩, ⟨80, false⟩, .step 0⟩, ⟨⟨3, false⟩, ⟨81, false⟩, .step 0⟩,
    ⟨⟨4, false⟩, ⟨99, false⟩, .step 0⟩, ⟨⟨5, false⟩, ⟨99, false⟩, .step 0⟩]

def glance : Watch := ⟨.essential, false, false⟩

def watchedEngine (watch : Watch) : Engine :=
  Engine.new (({ maxTracedRequests := 1 } : Settings).watchedBy watch) registry Dict.empty
    Dict.empty (fun _ => { outcome := .error (.unavailable "nobody to ask") }) (fun _ => .ok "")

end Sample

theorem sample_watched_at_a_glance :
    let first := (Sample.watchedEngine .everything).run (Sample.watchedEngine .everything).initial
      (Sample.moments.map Moment.byFirst)
    let second := (Sample.watchedEngine Sample.glance).run
      (Sample.watchedEngine Sample.glance).initial (Sample.moments.map Moment.bySecond)
    (Sample.watchedEngine .everything).Comparable Sample.moments ∧
      SeenAlike .everything Sample.glance (first.recorder.traces "only")
        (second.recorder.traces "only") ∧
      (first.recorder.traces "only").map (·.nodeId) = ["ready", "wait"] := by
  intro first second
  have roomy : (Sample.watchedEngine .everything).Roomy (Sample.moments.map Moment.event) := by
    constructor
    · decide
    · intro cutoff inside
      simp [Sample.moments] at inside
  have comparable : (Sample.watchedEngine .everything).Comparable Sample.moments := Or.inr roomy
  have same := watching_changes_nothing { maxTracedRequests := 1 } Sample.registry Dict.empty
    Dict.empty (fun _ => { outcome := .error (.unavailable "nobody to ask") }) (fun _ => .ok "")
    .everything Sample.glance Sample.moments
  exact ⟨comparable, (same.2.2 comparable "only").1, rfl⟩

end Engine

end Switchyard
