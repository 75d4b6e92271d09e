import Switchyard.Execution.Controller
import Switchyard.Proofs.Trace.Pinned
set_option autoImplicit false

/-! How closely an executor is watched: how much of a context its records keep, whether they keep a
size, and whether missing inputs are noticed. Nothing that is done depends on it. Whoever watches
less sees an image of what is seen when everything is watched. Main statement:
`Stage.advance_watchedBy`. -/
namespace Switchyard

structure Watch where
  mode : TraceMode
  /-- Whether records keep the size of the context. -/
  monitored : Bool
  /-- Whether missing inputs are noticed. -/
  validated : Bool

/-- The watch that misses nothing. -/
def Watch.everything : Watch := ⟨.full, true, true⟩

/-- What is left of a full summary: all of it, its keys, or nothing. -/
def TraceMode.see (mode : TraceMode) (whole : Json) : Json :=
  match mode with
  | .full => whole
  | .essential =>
    match whole with
    | .obj fields => Json.texts (fields.map (·.1))
    | _ => Json.texts []
  | .minimal => .null

theorem summarize_eq_see (mode : TraceMode) (values : Dict Json) :
    Recorder.summarize mode values = mode.see (Recorder.summarize .full values) := by
  cases mode with
  | full => rfl
  | minimal => rfl
  | essential =>
    have keys : ((values.map fun _ value => Recorder.cut value).entries).map (·.1) =
        values.keys := by
      change (values.entries.map fun entry => (entry.1, Recorder.cut entry.2)).map (·.1) = _
      rw [List.map_map]
      rfl
    change Json.texts values.keys = Json.texts _
    rw [keys]

namespace Watch

variable (watch : Watch)

def record (record : TraceRecord) : TraceRecord :=
  { record with
    inputsSummary := watch.mode.see record.inputsSummary
    outputsSummary := watch.mode.see record.outputsSummary
    performance := { record.performance with
      resourceUsage := if watch.monitored then record.performance.resourceUsage else none } }

def effect? : Effect → Option Effect
  | .recorded record => some (.recorded (watch.record record))
  | .warned (.missingInputs nodeId id missing) =>
    if watch.validated then some (.warned (.missingInputs nodeId id missing)) else none
  | effect => some effect

def effects (all : List Effect) : List Effect := all.filterMap watch.effect?

def see {α : Type} (step : α × List Effect) : α × List Effect := (step.1, watch.effects step.2)

@[simp] theorem effects_append (first later : List Effect) :
    watch.effects (first ++ later) = watch.effects first ++ watch.effects later :=
  List.filterMap_append

end Watch

/-! Effects that are the same however closely one watches. -/

def Warning.isOfInputs : Warning → Bool
  | .missingInputs .. => true
  | _ => false

theorem Warning.ofSet_certain (key : String) (value : Json) :
    ∀ warning ∈ Warning.ofSet key value, warning.isOfInputs = false := by
  intro warning inside
  unfold Warning.ofSet at inside
  split at inside
  · rw [List.mem_singleton.mp inside]
    rfl
  · cases inside

theorem Warning.ofSetAll_certain (entries : List (String × Json)) :
    ∀ warning ∈ Warning.ofSetAll entries, warning.isOfInputs = false := by
  intro warning inside
  obtain ⟨entry, -, made⟩ := List.mem_flatMap.mp inside
  exact Warning.ofSet_certain entry.1 entry.2 warning made

theorem Condition.warnings_certain (predicates : Dict Predicate) (name : String)
    (context : Context) :
    ∀ warning ∈ Condition.warnings predicates name context, warning.isOfInputs = false := by
  intro warning inside
  unfold Condition.warnings at inside
  split at inside
  · cases inside
  · rw [List.mem_singleton.mp inside]
    rfl

namespace Watch

variable (watch : Watch)

theorem effect?_warned {warning : Warning} (certain : warning.isOfInputs = false) :
    watch.effect? (.warned warning) = some (.warned warning) := by
  cases warning with
  | missingInputs => cases certain
  | _ => rfl

theorem effects_warnings {list : List Warning}
    (certain : ∀ warning ∈ list, warning.isOfInputs = false) :
    watch.effects (Effect.warnings list) = Effect.warnings list := by
  unfold effects Effect.warnings
  induction list with
  | nil => rfl
  | cons warning rest ih =>
    obtain ⟨first, others⟩ := List.forall_mem_cons.mp certain
    rw [List.map_cons, List.filterMap_cons, watch.effect?_warned first, ih others]

theorem effects_missingInputs (handlers : Dict LeafHandler) (node : DataFlowNode)
    (context : Context) :
    watch.effects (Effect.warnings (Leaves.warnings ⟨handlers, true⟩ node context)) =
      Effect.warnings (Leaves.warnings ⟨handlers, watch.validated⟩ node context) := by
  unfold Leaves.warnings
  dsimp only
  cases (Leaves.missingInputs node context).isEmpty with
  | true => cases watch.validated <;> rfl
  | false =>
    cases validated : watch.validated <;> simp [Effect.warnings, effects, effect?, validated]

end Watch

namespace Executor

def watchedBy (executor : Executor) (watch : Watch) : Executor :=
  { executor with
    traceMode := watch.mode
    monitorPerformance := watch.monitored
    leaves := { executor.leaves with validateInputs := watch.validated } }

section Nodes

variable (executor : Executor) (watch : Watch)

/-! What a watch leaves alone. -/

theorem registry_watchedBy : (executor.watchedBy watch).registry = executor.registry := rfl

theorem reply_watchedBy (leaf : DataFlowNode) (context : Context) :
    (executor.watchedBy watch).leaves.reply leaf context = executor.leaves.reply leaf context := rfl

theorem capability_watchedBy : (executor.watchedBy watch).capability = executor.capability := rfl

theorem enter_watchedBy (node : DecisionNode) (context : Context) :
    (executor.watchedBy watch).enter node context =
      watch.see ((executor.watchedBy .everything).enter node context) := by
  have parameters : ∀ action,
      watch.effects (Effect.warnings (parameterWarnings action)) =
        Effect.warnings (parameterWarnings action) := by
    intro action
    unfold parameterWarnings
    split
    · rfl
    · exact watch.effects_warnings (Warning.ofSet_certain _ _)
  unfold enter
  cases node.behavior with
  | condition predicate whenTrue whenFalse =>
    exact Prod.ext rfl
      (watch.effects_warnings (Condition.warnings_certain executor.predicates _ _)).symm
  | action action =>
    simp only [registry_watchedBy]
    cases executor.registry.dataFlow? action.target with
    | some leaf => exact Prod.ext rfl (parameters action).symm
    | none => rfl
  | capability action => rfl
  | fallback action =>
    simp only [registry_watchedBy]
    cases executor.registry.dataFlow? action.target with
    | some leaf => exact Prod.ext rfl (parameters action).symm
    | none => rfl

theorem announce_watchedBy (work : Work) :
    (executor.watchedBy watch).announce work =
      watch.effects ((executor.watchedBy .everything).announce work) := by
  cases work with
  | leaf node context =>
    exact (watch.effects_missingInputs executor.leaves.handlers node context).symm
  | capability request context => rfl

theorem answer_watchedBy (work : Work) :
    (executor.watchedBy watch).answer work =
      watch.see ((executor.watchedBy .everything).answer work) := by
  cases work with
  | leaf node context =>
    simp only [answer, reply_watchedBy]
    cases (executor.leaves.reply node context).outcome with
    | ok outputs =>
      refine Prod.ext rfl (watch.effects_warnings ?_).symm
      intro warning inside
      rcases List.mem_append.mp inside with output | result
      · exact Warning.ofSetAll_certain _ warning output
      · exact Warning.ofSet_certain _ _ warning result
    | error error => rfl
  | capability request context =>
    simp only [answer]
    change (if executor.capabilityTimeoutMs.toNat < (executor.capability request).delayMs then _
      else _) = watch.see
        (if executor.capabilityTimeoutMs.toNat < (executor.capability request).delayMs then _
        else _)
    by_cases late : executor.capabilityTimeoutMs.toNat < (executor.capability request).delayMs
    · rw [if_pos late, if_pos late]
      rfl
    · rw [if_neg late, if_neg late]
      simp only [capability_watchedBy]
      cases (executor.capability request).outcome with
      | ok decision =>
        refine Prod.ext rfl ?_
        change _ = watch.effects (_ ++ _)
        rw [watch.effects_append, watch.effects_warnings (Warning.ofSet_certain _ _)]
        rfl
      | error error => rfl

theorem close_seen (work : Work) (startedAt now : Timestamp) (result : Except NodeError Context) :
    watch.effects (close work startedAt now result).2 = (close work startedAt now result).2 := by
  cases work <;> rfl

theorem settle_watchedBy (cancelled : Bool) (startedAt now : Timestamp) (work : Work) :
    (executor.watchedBy watch).settle cancelled startedAt now work =
      watch.see ((executor.watchedBy .everything).settle cancelled startedAt now work) := by
  cases cancelled with
  | true =>
    refine Prod.ext rfl ?_
    exact (close_seen watch work startedAt now _).symm
  | false =>
    have answered := executor.answer_watchedBy watch work
    simp only [settle, Bool.false_eq_true, if_false]
    rw [answered]
    refine Prod.ext rfl ?_
    change _ = watch.effects (_ ++ _)
    rw [watch.effects_append, close_seen]
    rfl

theorem recordOf_watchedBy (node : DecisionNode) (before : Context) (startedAt now : Timestamp)
    (decision : Option DecisionOutcome) (result : Except NodeError NodeOutcome) :
    (executor.watchedBy watch).recordOf node before startedAt now decision result =
      watch.record ((executor.watchedBy .everything).recordOf node before startedAt now decision
        result) := by
  unfold recordOf Watch.record
  simp only [watchedBy, Watch.everything, if_true]
  rw [summarize_eq_see watch.mode before.values, summarize_eq_see watch.mode]
  rfl

theorem recorded_watchedBy (effects : List Effect) (node : DecisionNode) (before : Context)
    (startedAt now : Timestamp) (decision : Option DecisionOutcome)
    (result : Except NodeError NodeOutcome) :
    watch.effects effects ++ [Effect.recorded
        ((executor.watchedBy watch).recordOf node before startedAt now decision result)] =
      watch.effects (effects ++ [Effect.recorded ((executor.watchedBy .everything).recordOf node
        before startedAt now decision result)]) := by
  rw [watch.effects_append, executor.recordOf_watchedBy watch]
  rfl

theorem finish_watchedBy (cancelled : Bool) (now : Timestamp) (run : NodeRun) :
    (executor.watchedBy watch).finish cancelled now run =
      watch.see ((executor.watchedBy .everything).finish cancelled now run) := by
  have settled := executor.settle_watchedBy watch cancelled run.startedAt now run.work
  unfold finish
  rw [settled]
  exact Prod.ext rfl (executor.recorded_watchedBy watch _ _ _ _ _ _ _)

theorem begin_watchedBy (cancelled : Bool) (now : Timestamp) (node : DecisionNode)
    (context : Context) :
    (executor.watchedBy watch).begin cancelled now node context =
      watch.see ((executor.watchedBy .everything).begin cancelled now node context) := by
  have entered := executor.enter_watchedBy watch node context
  unfold «begin»
  rw [entered]
  cases (executor.watchedBy .everything).enter node context with
  | mk begun effects =>
    cases begun with
    | settled outcome decision =>
      exact Prod.ext rfl (executor.recorded_watchedBy watch _ _ _ _ _ _ _)
    | handedOut work =>
      have delay : ∀ other : Watch,
          (executor.watchedBy other).delayMs work = executor.delayMs work := by
        intro other
        cases work <;> rfl
      have announced := executor.announce_watchedBy watch work
      have finished := fun stopped =>
        executor.finish_watchedBy watch stopped now ⟨node, context, now, work⟩
      simp only [Watch.see, delay, announced, finished]
      split
      · exact Prod.ext rfl (watch.effects_append _ _).symm
      · split
        · refine Prod.ext rfl ?_
          change _ = watch.effects (_ ++ _ ++ _)
          rw [watch.effects_append, watch.effects_append]
        · exact Prod.ext rfl (watch.effects_append _ _).symm

end Nodes

end Executor

/-! Walks. -/

section Walks

variable (executor : Executor) (watch : Watch) (cancelled : Bool) (now : Timestamp)

theorem Walk.visitNext_watchedBy (walk : Walk) :
    walk.visitNext (executor.watchedBy watch) cancelled now =
      watch.see (walk.visitNext (executor.watchedBy .everything) cancelled now) := by
  obtain ⟨stack, visited, context⟩ := walk
  cases stack with
  | nil => rfl
  | cons id rest =>
    unfold Walk.visitNext
    dsimp only
    by_cases stop : cancelled = true
    · rw [if_pos stop, if_pos stop]
      rfl
    · rw [if_neg stop, if_neg stop]
      by_cases seen : visited.contains id = true
      · rw [if_pos seen, if_pos seen]
        rfl
      · rw [if_neg seen, if_neg seen]
        simp only [Executor.registry_watchedBy]
        cases executor.registry.decision? id with
        | none => rfl
        | some node =>
          dsimp only
          rw [executor.begin_watchedBy watch false now node context]
          cases (executor.watchedBy .everything).begin false now node context with
          | mk begun effects => cases begun <;> rfl

/-- A step of a walk comes to the same under every watch, and its effects are seen. -/
theorem Stage.advance_watchedBy (stage : Stage) :
    stage.advance (executor.watchedBy watch) cancelled now =
      watch.see (stage.advance (executor.watchedBy .everything) cancelled now) := by
  cases stage with
  | between walk => exact Walk.visitNext_watchedBy executor watch cancelled now walk
  | inside walk id run =>
    unfold Stage.advance
    dsimp only
    rw [executor.finish_watchedBy watch cancelled now run]
    rfl
  | ended result => rfl

end Walks

/-! Answers. -/

namespace Controller

def watchedBy (controller : Controller) (watch : Watch) : Controller :=
  { controller with executor := controller.executor.watchedBy watch }

variable (controller : Controller) (watch : Watch) (now : Timestamp) (request : Request)

theorem answerByLegacy_watchedBy :
    (controller.watchedBy watch).answerByLegacy now request =
      watch.see ((controller.watchedBy .everything).answerByLegacy now request) := by
  unfold answerByLegacy askLegacy watchedBy
  dsimp only
  cases controller.legacy request.legacyCall with
  | ok response => rfl
  | error error => cases controller.strategy <;> rfl

theorem conclude_watchedBy (result : Except WalkError Context) :
    (controller.watchedBy watch).conclude now request result =
      watch.see ((controller.watchedBy .everything).conclude now request result) := by
  cases result with
  | ok context => rfl
  | error error =>
    unfold conclude recover askLegacy watchedBy
    dsimp only
    cases controller.strategy with
    | strict => rfl
    | graceful | hybrid =>
      cases error <;> cases controller.legacy request.legacyCall <;> rfl

theorem prepareWarnings_seen :
    watch.effects (Effect.warnings (prepareWarnings request)) =
      Effect.warnings (prepareWarnings request) := by
  refine watch.effects_warnings ?_
  intro warning inside
  rcases List.mem_append.mp inside with input | caller
  · exact Warning.ofSetAll_certain _ warning input
  · exact Warning.ofSetAll_certain _ warning caller

end Controller

end Switchyard
