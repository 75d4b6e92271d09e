import Switchyard.Proofs.Engine.Occasion
import Switchyard.Proofs.Execution.Parameters
set_option autoImplicit false

/-! What the fallback flag of an answer tells. A walk carries the flag in its context, where a
fallback node sets it and nothing clears it; a request can set it as well, under the same key. Main
statements: `fallback_flag_tells`, `request_forges_flag`. -/
namespace Switchyard

open Context

def Context.Flagged (context : Context) : Prop :=
  context.get? Key.fallback = some (.bool true)

namespace Context

theorem bool?_fallback_iff (context : Context) :
    (context.bool? Key.fallback).getD false = true ↔ context.Flagged := by
  unfold bool? Flagged
  cases context.get? Key.fallback with
  | none => simp
  | some value => cases value <;> simp [Json.asBool?]

theorem flagged_set_of_ne {context : Context} {key : String} (different : key ≠ Key.fallback)
    (value : Json) : (context.set key value).Flagged ↔ context.Flagged := by
  rw [Flagged, get?_set, if_neg different, Flagged]

theorem flagged_markFallback (context : Context) : (markFallback context).Flagged := by
  rw [Flagged, markFallback, get?_set, if_pos rfl]
  rfl

theorem stored_eq_flag_iff (value : Json) : stored value = .bool true ↔ value = .bool true := by
  constructor
  · intro same
    by_cases small : value.size ≤ sizeLimit
    · rw [stored_of_small small] at same
      exact same
    · rw [stored_of_large (Nat.not_le.mp small)] at same
      cases same
  · rintro rfl
    rfl

end Context

theorem Controller.flagged_prepare_iff (request : Request) :
    (Controller.prepare request).Flagged ↔ request.says? Key.fallback = some (.bool true) := by
  rw [Flagged, Controller.get?_prepare_of_ne request (by decide), Option.map_eq_some_iff]
  simp [stored_eq_flag_iff]

/-- No leaf that the graph can run says anything under a key: it neither declares it as an output
nor answers with it. -/
structure Executor.Silent (executor : Executor) (key : String) : Prop where
  undeclared : ∀ id leaf, executor.registry.dataFlow? id = some leaf → key ∉ leaf.outputs
  unanswered : ∀ id leaf context outputs, executor.registry.dataFlow? id = some leaf →
    (executor.leaves.reply leaf context).outcome = .ok outputs → outputs.get? key = none

section Walk

variable {executor : Executor}

theorem Executor.Silent.flagged_contextAfterLeaf (silent : executor.Silent Key.fallback)
    (action : NodeAction) {id : String} {leaf : DataFlowNode} {outputs : Dict Json}
    {context handed : Context} (resolved : executor.registry.dataFlow? id = some leaf)
    (replied : (executor.leaves.reply leaf handed).outcome = .ok outputs) :
    (contextAfterLeaf action leaf outputs context).Flagged ↔ context.Flagged := by
  have keeps : Context.Keeps [Key.fallback] context
      (contextAfterLeaf action leaf outputs context) := by
    apply keeps_contextAfterLeaf (by decide) (by decide) action
    · intro key told
      rw [List.mem_singleton.mp told]
      exact silent.undeclared id leaf resolved
    · intro key told
      rw [List.mem_singleton.mp told]
      exact silent.unanswered id leaf handed outputs resolved replied
  rw [Flagged, keeps Key.fallback (List.mem_singleton.mpr rfl), Flagged]

/-- A node that ends well leaves the flag set if it is a fallback node, and otherwise as it was. -/
theorem Executor.Leaves.flagged_iff (silent : executor.Silent Key.fallback) {node : DecisionNode}
    {context : Context} {outcome : NodeOutcome} (leaves : executor.Leaves node context outcome) :
    outcome.context.Flagged ↔ context.Flagged ∨ node.kind = .fallback := by
  unfold DecisionNode.kind
  cases leaves with
  | decided behavior _ => simp [behavior, Behavior.kind]
  | passed behavior _ => simp [behavior, Behavior.kind]
  | ran behavior resolved replied =>
    simp [behavior, Behavior.kind, silent.flagged_contextAfterLeaf _ resolved replied]
  | asked behavior _ =>
    have other : Key.capabilityResult ≠ Key.fallback := by decide
    simp [behavior, Behavior.kind, flagged_set_of_ne other]
  | apologised behavior _ => simp [behavior, Behavior.kind, flagged_markFallback]
  | fellBack behavior _ _ => simp [behavior, Behavior.kind, flagged_markFallback]

/-- Between two nodes the flag is set if it was at the start, or if a fallback node has been
executed since. -/
theorem Reached.flagged_iff (silent : executor.Silent Key.fallback) {start : String}
    {context : Context} {executed : List Executed} {walk : Walk}
    (reached : Reached executor start context executed walk) :
    walk.context.Flagged ↔
      context.Flagged ∨ ∃ one ∈ executed, one.record.nodeKind = .fallback := by
  induction reached with
  | start => simp
  | turn before turn ih =>
    obtain ⟨stopped, ended⟩ := turn.ended
    obtain ⟨startedAt, now, decision, recorded⟩ := turn.recorded
    rw [(Executor.leaves_of_outcome ended).flagged_iff silent, ih]
    simp only [List.mem_append, List.mem_singleton, or_and_right, exists_or, exists_eq_left,
      recorded, or_assoc]
    rfl

end Walk

namespace Engine

def Occasion.records (engine : Engine) (occasion : Occasion) : List TraceRecord :=
  (effectsOf (occasion.steps engine)).filterMap Effect.record?

section Answered

variable {engine : Engine} {occasion : Occasion} {reply : Reply}

theorem Occasion.records_eq (enabled : engine.controller.enabled = true)
    (answered : Answered (occasion.steps engine) (occasion.seq engine) reply) :
    ∃ told result now,
      (Walk.start engine.controller.root (Controller.prepare occasion.request)).advanceAll
        engine.controller.executor told = .ended result ∧
      reply = (engine.controller.conclude now occasion.request result).1 ∧
      occasion.records engine =
        ((Walk.start engine.controller.root (Controller.prepare occasion.request)).executedAlong
          engine.controller.executor told).map (·.record) := by
  unfold records
  rw [steps_eq] at answered ⊢
  obtain ⟨told, result, now, along, -⟩ :=
    @soloSteps_walk engine (occasion.live engine) reply enabled occasion.during answered
  refine ⟨told, result, now, along.ended, along.replies, ?_⟩
  have opening : (Phase.opening occasion.request .arrived).filterMap Effect.record? = [] :=
    Effect.filterMap_record?_of_quiet fun effect inside => Effect.quiet_of_mem_warnings inside
  have ending : ((engine.controller.conclude now occasion.request result).2 ++
      closing reply).filterMap Effect.record? = [] :=
    Effect.filterMap_record?_of_quiet (List.forall_mem_append.mpr
      ⟨engine.controller.conclude_quiet now occasion.request result, closing_quiet reply⟩)
  have does := congrArg (List.filterMap Effect.record?) along.does
  rw [List.filterMap_append, List.filterMap_append] at does
  rw [does, Stage.map_record_executedAlong]
  change (Phase.opening occasion.request .arrived).filterMap Effect.record? ++ _ ++
    ((engine.controller.conclude now occasion.request result).2 ++ closing reply).filterMap
      Effect.record? = _
  rw [opening, ending, List.nil_append, List.append_nil]
  rfl

/-- The flag of an answer, whatever the graph, the strategy, the request and the events around it, as
long as no leaf says anything under the key of the flag: it is set on every apology, on no answer of
the legacy path, and on an answer of the graph exactly if the walk has executed a fallback node or
the request itself says that the flag is set. -/
theorem fallback_flag_tells (silent : engine.controller.executor.Silent Key.fallback)
    {answer : OrchestrationResult}
    (answered : Answered (occasion.steps engine) (occasion.seq engine) (.ok answer)) :
    answer.fallback = true ↔
      answer.source = .apology ∨
      answer.source = .graph ∧
        (occasion.request.says? Key.fallback = some (.bool true) ∨
          ∃ record ∈ occasion.records engine, record.nodeKind = .fallback) := by
  have unwalked : ∀ {now : Timestamp}, Controller.Unwalked now occasion.request answer →
      (answer.fallback = true ↔ answer.source = .apology) ∧ answer.source ≠ .graph := by
    rintro now (⟨response, rfl⟩ | rfl)
    · simp [OrchestrationResult.ofLegacy]
    · simp [OrchestrationResult.apology]
  by_cases enabled : engine.controller.enabled = true
  · obtain ⟨told, result, now, ended, replies, records⟩ := Occasion.records_eq enabled answered
    rcases Controller.walked_or_unwalked replies.symm with ⟨context, rfl, rfl⟩ | elsewhere
    · have standing := standing_along engine.controller.executor engine.controller.root
        (Controller.prepare occasion.request) told
      rw [ended] at standing
      obtain ⟨walk, reached, rfl⟩ := Ended.reached standing rfl
      have flagged := reached.flagged_iff silent
      rw [Controller.flagged_prepare_iff] at flagged
      change (walk.context.bool? Key.fallback).getD false = true ↔ _
      rw [bool?_fallback_iff, flagged, records]
      simp [graphResult]
    · obtain ⟨same, notGraph⟩ := unwalked elsewhere
      simp [same, notGraph]
  · have disabled : engine.controller.enabled = false := Bool.eq_false_iff.mpr enabled
    obtain ⟨now, replies, -⟩ := Occasion.legacy disabled answered
    obtain ⟨same, notGraph⟩ := unwalked (Controller.unwalked_of_answerByLegacy replies.symm)
    simp [same, notGraph]

end Answered

/-! Requests to a graph of one node. -/

namespace Sample

def rescue : GraphDefinition where
  root := "rescue"
  dataFlowNodes := [{ id := "probe", kind := .processor }]
  decisionNodes := [{ id := "rescue", behavior := .fallback ⟨.fallback, "probe", []⟩ }]

def engineOn (graph : GraphDefinition) : Engine where
  settings := {}
  controller := Executor.Sample.controller graph

def asking (input : Json) : Occasion where
  before := []
  startedAt := ⟨0, false⟩
  request := ⟨"r", input, Dict.empty⟩
  during := List.replicate 4 (⟨0, false⟩, .step 0)

theorem silent {graph : GraphDefinition}
    (one : graph.dataFlowNodes = [{ id := "probe", kind := .processor }]) :
    (engineOn graph).controller.executor.Silent Key.fallback where
  undeclared := by
    intro id leaf resolved declared
    change (Dict.ofList (graph.dataFlowNodes.map fun node => (node.id, node))).get? id =
      some leaf at resolved
    rw [one] at resolved
    change Dict.lookup id [("probe", _)] = some leaf at resolved
    simp only [Dict.lookup] at resolved
    split at resolved
    · rw [← Option.some.inj resolved] at declared
      cases declared
    · cases resolved
  unanswered := by
    intro id leaf context outputs resolved replied
    obtain rfl := Except.ok.inj replied
    rfl

end Sample

theorem rescued_request_is_flagged :
    let engine := Sample.engineOn Sample.rescue
    let occasion := Sample.asking .null
    ∃ answer, Answered (occasion.steps engine) (occasion.seq engine) (.ok answer) ∧
      answer.source = .graph ∧ answer.fallback = true := by
  intro engine occasion
  have answered : ∃ answer, Answered (occasion.steps engine) (occasion.seq engine) (.ok answer) ∧
      answer.source = .graph := ⟨_, ⟨_, List.mem_of_getElem? (i := 3) rfl, rfl⟩, rfl⟩
  obtain ⟨answer, answered, source⟩ := answered
  have tells := fallback_flag_tells (Sample.silent rfl) answered
  have recorded : ∃ record ∈ occasion.records engine, record.nodeKind = .fallback :=
    ⟨_, List.mem_of_getElem? (i := 0) rfl, rfl⟩
  exact ⟨answer, answered, source, tells.mpr (Or.inr ⟨source, Or.inr recorded⟩)⟩

/-- The graph of this request has no fallback node at all and its leaf says nothing, and still the
answer of the graph is flagged. -/
theorem request_forges_flag :
    let engine := Sample.engineOn Executor.Sample.probe
    let occasion := Sample.asking (.obj [(Key.fallback, .bool true)])
    engine.controller.executor.Silent Key.fallback ∧
      ∃ answer, Answered (occasion.steps engine) (occasion.seq engine) (.ok answer) ∧
        answer.source = .graph ∧ answer.fallback = true ∧
        ∀ record ∈ occasion.records engine, record.nodeKind ≠ .fallback :=
  ⟨Sample.silent rfl, _, ⟨_, List.mem_of_getElem? (i := 3) rfl, rfl⟩, rfl, rfl, by decide⟩

end Engine

end Switchyard
