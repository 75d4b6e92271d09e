import Mathlib.Data.List.Chain
import Switchyard.Proofs.Execution.Delivery
import Switchyard.Proofs.Execution.Safety
import Switchyard.Proofs.Trace.Summaries
set_option autoImplicit false

/-! Records of a walk that keeps full traces. What a record tells of the context that its node was
given and of what the node has changed is enough to tell the context that the next node is given.
Main statement: `records_chain`. -/
namespace Switchyard

def Json.fields (value : Json) : Dict Json := value.asDict?.getD Dict.empty

@[simp] theorem Json.fields_ofDict (dict : Dict Json) : (Json.ofDict dict).fields = dict :=
  Dict.ofList_entries dict

@[simp] theorem Json.field?_ofDict (dict : Dict Json) (key : String) :
    (Json.ofDict dict).field? key = dict.get? key := rfl

/-- Running the node means running a leaf: it is an action or a fallback whose target resolves. -/
def Registry.runsLeaf (registry : Registry) (id : String) : Bool :=
  match (registry.decision? id).map DecisionNode.behavior with
  | some (.action action) | some (.fallback action) => (registry.dataFlow? action.target).isSome
  | _ => false

/-- The summary of a context with the changes made to it that the record of a node tells. -/
def TraceRecord.chained (registry : Registry) (record : TraceRecord) : Dict Json :=
  let changed := record.inputsSummary.fields.overwrite record.outputsSummary.fields
  if registry.runsLeaf record.nodeId then changed.erase Context.Key.actionParameters else changed

theorem TraceRecord.get?_chained (registry : Registry) (record : TraceRecord) (key : String) :
    (record.chained registry).get? key =
      if registry.runsLeaf record.nodeId = true ∧ Context.Key.actionParameters = key then none
      else (record.outputsSummary.fields.get? key).or (record.inputsSummary.fields.get? key) := by
  unfold chained
  by_cases runs : registry.runsLeaf record.nodeId = true
  · simp only [runs, if_true, true_and, Dict.get?_erase, Dict.get?_overwrite]
  · simp only [runs, if_false, false_and, Dict.get?_overwrite, Bool.false_eq_true]

/-! Summaries. -/

theorem Recorder.cut_beq {left right : Json} (equal : (left == right) = true) :
    (cut left == cut right) = true := by
  cases left with
  | str text =>
    cases right with
    | str other =>
      obtain rfl : text = other := eq_of_beq (show (text == other) = true from equal)
      rw [cut_str]
      exact Json.proper_str _
    | _ => cases equal
  | _ => cases right <;> first | exact equal | cases equal

/-- What the changes between two contexts, made to the summary of the first one, give is the summary
of the second, provided that nothing else is gone than what is taken away besides. -/
theorem chained_beq (before : Context) {after : Context} (proper : after.Proper)
    (gone : String → Prop) [DecidablePred gone] (taken : ∀ key, gone key → after.get? key = none)
    (kept : ∀ key, ¬ gone key → after.get? key = none → before.get? key = none)
    {chained : Dict Json}
    (held : ∀ key, chained.get? key = if gone key then none else
      (((after.changesSince before).get? key).map Recorder.cut).or
        ((before.get? key).map Recorder.cut)) :
    (Json.ofDict chained == Recorder.summarize .full after.values) = true := by
  refine Json.ofDict_beq fun key => ?_
  rw [Dict.get?_map, held, after.get?_changesSince]
  change Option.Rel _ _ ((after.get? key).map Recorder.cut)
  by_cases absent : gone key
  · rw [if_pos absent, taken key absent]
    exact .none
  · rw [if_neg absent]
    cases found : after.get? key with
    | none =>
      rw [kept key absent found]
      exact .none
    | some value =>
      have reflexive : (value == value) = true := proper key value found
      cases earlier : before.get? key with
      | none => exact .some (Recorder.cut_beq reflexive)
      | some old =>
        by_cases same : (old == value) = true
        · simp only [Option.filter, same, Bool.not_true, Bool.false_eq_true, if_false,
            Option.map_none, Option.none_or, Option.map_some]
          exact .some (Recorder.cut_beq same)
        · simp only [Option.filter, Bool.eq_false_iff.mpr same, Bool.not_false, if_true,
            Option.map_some, Option.some_or]
          exact .some (Recorder.cut_beq reflexive)

/-! What nodes keep and take away. -/

section Keeps

variable {executor : Executor} {node : DecisionNode} {context : Context}

theorem Context.get?_set_eq_none {context : Context} {key other : String} {value : Json}
    (absent : (context.set key value).get? other = none) : context.get? other = none := by
  rw [get?_set] at absent
  split at absent
  · cases absent
  · exact absent

theorem contextAfterLeaf_keeps {action : NodeAction} {leaf : DataFlowNode} {outputs : Dict Json}
    {key : String} (other : Context.Key.actionParameters ≠ key)
    (absent : (contextAfterLeaf action leaf outputs context).get? key = none) :
    context.get? key = none := by
  rw [get?_contextAfterLeaf, if_neg other] at absent
  exact (Option.or_eq_none_iff.mp absent).2

/-- Whether a node runs a leaf, told by its behaviour. -/
theorem runsLeaf_iff (keyed : executor.registry.Keyed) {id : String}
    (known : executor.registry.decision? id = some node) :
    executor.registry.runsLeaf node.id = true ↔ ∃ action leaf,
      (node.behavior = .action action ∨ node.behavior = .fallback action) ∧
        executor.registry.dataFlow? action.target = some leaf := by
  rw [keyed id node known, Registry.runsLeaf, known, Option.map_some]
  cases node.behavior <;> simp [Option.isSome_iff_exists]

/-- A node takes nothing away but the parameters, and these only if it runs a leaf. -/
theorem Executor.Leaves.keeps {outcome : NodeOutcome}
    (leaves : executor.Leaves node context outcome) {key : String}
    (other : ¬ (executor.registry.runsLeaf node.id = true ∧ Context.Key.actionParameters = key))
    (keyed : executor.registry.Keyed) {id : String}
    (known : executor.registry.decision? id = some node)
    (absent : outcome.context.get? key = none) : context.get? key = none := by
  have ran : ∀ {action : NodeAction} {leaf : DataFlowNode},
      (node.behavior = .action action ∨ node.behavior = .fallback action) →
      executor.registry.dataFlow? action.target = some leaf →
      Context.Key.actionParameters ≠ key := fun behavior resolved same =>
    other ⟨(runsLeaf_iff keyed known).mpr ⟨_, _, behavior, resolved⟩, same⟩
  cases leaves with
  | decided _ _ => exact absent
  | passed _ _ => exact absent
  | ran behavior resolved _ => exact contextAfterLeaf_keeps (ran (Or.inl behavior) resolved) absent
  | asked _ _ => exact Context.get?_set_eq_none absent
  | apologised _ _ => exact Context.get?_set_eq_none (Context.get?_set_eq_none absent)
  | fellBack behavior resolved _ =>
    exact contextAfterLeaf_keeps (ran (Or.inr behavior) resolved)
      (Context.get?_set_eq_none absent)

/-- A node that has run a leaf leaves no parameters behind. -/
theorem Executor.Leaves.takes {outcome : NodeOutcome}
    (leaves : executor.Leaves node context outcome) (keyed : executor.registry.Keyed) {id : String}
    (known : executor.registry.decision? id = some node)
    (runs : executor.registry.runsLeaf node.id = true) :
    outcome.context.get? Context.Key.actionParameters = none := by
  obtain ⟨action, leaf, behavior, resolved⟩ := (runsLeaf_iff keyed known).mp runs
  cases leaves with
  | decided decides _ =>
    rcases behavior with acts | falls
    · cases decides.symm.trans acts
    · cases decides.symm.trans falls
  | passed acts unresolved =>
    rcases behavior with same | falls
    · cases acts.symm.trans same
      rw [unresolved] at resolved
      cases resolved
    · cases acts.symm.trans falls
  | ran _ _ _ => exact contextAfterLeaf_parameters _ _ _ _
  | asked asks _ =>
    rcases behavior with acts | falls
    · cases asks.symm.trans acts
    · cases asks.symm.trans falls
  | apologised falls unresolved =>
    rcases behavior with acts | same
    · cases falls.symm.trans acts
    · cases falls.symm.trans same
      rw [unresolved] at resolved
      cases resolved
  | fellBack _ _ _ =>
    rw [markFallback, Context.get?_set, if_neg (by decide)]
    exact contextAfterLeaf_parameters _ _ _ _

end Keeps

/-! Records. -/

/-- The record of a node that has ended well tells what the node has left. -/
structure Tells (registry : Registry) (monitored : Bool) (record : TraceRecord) (left : Context) :
    Prop where
  noErrors : record.errors = []
  chained : (Json.ofDict (record.chained registry) == Recorder.summarize .full left.values) = true
  usage : monitored = true →
    record.performance.resourceUsage = some (UInt64.ofNat left.serializedSize)

section Records

variable {executor : Executor}

theorem Turn.tells {walk : Walk} {id : String} {rest : List String} {node : DecisionNode}
    {outcome : NodeOutcome} {last : Executed}
    (turn : Turn executor walk id rest node (.ok outcome) last)
    (keyed : executor.registry.Keyed) (full : executor.traceMode = .full)
    (proper : outcome.context.Proper) :
    Tells executor.registry executor.monitorPerformance last.record outcome.context := by
  obtain ⟨stopped, ended⟩ := turn.ended
  obtain ⟨startedAt, now, decision, recorded⟩ := turn.recorded
  have leaves := Executor.leaves_of_outcome ended
  rw [recorded]
  refine ⟨rfl, ?_, fun monitored => if_pos monitored⟩
  refine chained_beq walk.context proper
    (fun key => executor.registry.runsLeaf node.id = true ∧ Context.Key.actionParameters = key)
    ?_ (fun key other absent => leaves.keeps other keyed turn.known absent) fun key => ?_
  · rintro key ⟨runs, rfl⟩
    exact leaves.takes keyed turn.known runs
  · rw [TraceRecord.get?_chained]
    simp only [Executor.recordOf, full, Recorder.summarize, Json.fields_ofDict, Dict.get?_map]
    rfl

/-- The record of a node that has run a leaf tells of no parameters. -/
theorem Turn.no_parameters {walk : Walk} {id : String} {rest : List String} {node : DecisionNode}
    {result : Except NodeError NodeOutcome} {last : Executed}
    (turn : Turn executor walk id rest node result last)
    (keyed : executor.registry.Keyed) (full : executor.traceMode = .full)
    (runs : executor.registry.runsLeaf last.record.nodeId = true) :
    last.record.outputsSummary.field? Context.Key.actionParameters = none := by
  obtain ⟨stopped, ended⟩ := turn.ended
  obtain ⟨startedAt, now, decision, recorded⟩ := turn.recorded
  rw [recorded] at runs ⊢
  cases result with
  | error cause =>
    simp only [Executor.recordOf, full, Recorder.summarize, Json.field?_ofDict, Dict.get?_map,
      Dict.get?_empty, Option.map_none]
  | ok outcome =>
    have gone := (Executor.leaves_of_outcome ended).takes keyed turn.known runs
    have unchanged : (outcome.context.changesSince walk.context).get?
        Context.Key.actionParameters = none := by
      refine (Dict.get?_filter outcome.context.values _ _).trans ?_
      change Option.filter _ (outcome.context.get? _) = none
      rw [gone]
      rfl
    simp only [Executor.recordOf, full, Recorder.summarize, Json.field?_ofDict, Dict.get?_map,
      unchanged, Option.map_none]

theorem Turn.inputs {walk : Walk} {id : String} {rest : List String} {node : DecisionNode}
    {result : Except NodeError NodeOutcome} {last : Executed}
    (turn : Turn executor walk id rest node result last) (full : executor.traceMode = .full) :
    last.record.inputsSummary = Recorder.summarize .full last.given.values := by
  obtain ⟨startedAt, now, decision, recorded⟩ := turn.recorded
  rw [recorded, turn.given, ← full]
  rfl

theorem Reached.proper {start : String} {context : Context} (answers : executor.leaves.Proper)
    (given : context.Proper) {executed : List Executed} {walk : Walk}
    (reached : Reached executor start context executed walk) : walk.context.Proper := by
  induction reached with
  | start => exact given
  | turn before turn ih =>
    obtain ⟨stopped, ended⟩ := turn.ended
    exact (Executor.leaves_of_outcome ended).proper answers ih

/-- The records so far, each with the context that the next node was given, and the last with the
context that the walk has come to. -/
structure Chain (executor : Executor) (executed : List Executed) (reached : Context) : Prop where
  links : executed.IsChain fun first second =>
    Tells executor.registry executor.monitorPerformance first.record second.given
  last : ∀ last, executed.getLast? = some last →
    Tells executor.registry executor.monitorPerformance last.record reached

theorem Chain.links_concat {executed : List Executed} {reached : Context}
    (chain : Chain executor executed reached) {next : Executed} (given : next.given = reached) :
    (executed ++ [next]).IsChain fun first second =>
      Tells executor.registry executor.monitorPerformance first.record second.given := by
  refine List.isChain_append.mpr ⟨chain.links, List.isChain_singleton _, ?_⟩
  intro last isLast first isFirst
  obtain rfl := Option.some.inj isFirst
  rw [given]
  exact chain.last last isLast

theorem Reached.chain (keyed : executor.registry.Keyed) (full : executor.traceMode = .full)
    (answers : executor.leaves.Proper) {start : String} {context : Context}
    (given : context.Proper) {executed : List Executed} {walk : Walk}
    (reached : Reached executor start context executed walk) :
    Chain executor executed walk.context := by
  induction reached with
  | start => exact ⟨List.isChain_nil, fun last impossible => by cases impossible⟩
  | @turn executed walk id rest node outcome last before turn ih =>
    have proper := (Reached.turn before turn).proper answers given
    refine ⟨ih.links_concat turn.given, fun other isLast => ?_⟩
    rw [List.getLast?_concat] at isLast
    rw [← Option.some.inj isLast]
    exact turn.tells keyed full proper

/-- At any moment of a walk the records so far hang together. -/
theorem Standing.links (keyed : executor.registry.Keyed) (full : executor.traceMode = .full)
    (answers : executor.leaves.Proper) {start : String} {context : Context}
    (given : context.Proper) {executed : List Executed} {stage : Stage}
    (standing : Standing executor start context executed stage) :
    executed.IsChain fun first second =>
      Tells executor.registry executor.monitorPerformance first.record second.given := by
  cases stage with
  | between walk => exact (Reached.chain keyed full answers given standing).links
  | inside walk id run =>
    obtain ⟨visited, -, -, -, -, -, before⟩ := standing
    exact (before.chain keyed full answers given).links
  | ended result =>
    cases standing with
    | atEnd before _ => exact (before.chain keyed full answers given).links
    | stopped before => exact (before.chain keyed full answers given).links
    | again before _ _ => exact (before.chain keyed full answers given).links
    | missing before _ _ => exact (before.chain keyed full answers given).links
    | failed before turn =>
      exact (before.chain keyed full answers given).links_concat turn.given

/-- The last record of a walk that has ended well tells the context that the walk returns. -/
theorem Ended.last (keyed : executor.registry.Keyed) (full : executor.traceMode = .full)
    (answers : executor.leaves.Proper) {start : String} {context final : Context}
    (given : context.Proper) {executed : List Executed}
    (ended : Ended executor start context executed (.ok final)) :
    ∃ last, executed.getLast? = some last ∧
      Tells executor.registry executor.monitorPerformance last.record final := by
  cases ended with
  | @atEnd _ walk before empty =>
    have chain := before.chain keyed full answers given
    cases before with
    | start => cases empty
    | @turn earlier _ _ _ _ _ last before turn =>
      exact ⟨last, List.getLast?_concat, chain.last last List.getLast?_concat⟩

/-- In full traces the records of a walk hang together. The summary that a record has of what its
node was given, with the changes that the record tells, is the summary that the next record begins
with; only the parameters are gone once a leaf has run, and no record of a node that has run one
tells of any. After a walk that has ended well the last record leads to what the walk returns in the
same way. Where performance is watched, a record tells the size of the context that the next node
was given. -/
theorem records_chain (accepted : executor.registry.Accepted) (full : executor.traceMode = .full)
    (answers : executor.leaves.Proper) (start : String) {context : Context}
    (given : context.Proper) (told : List (Timestamp × Bool)) :
    let executed := (Walk.start start context).executedAlong executor told
    (∀ one ∈ executed, one.record.inputsSummary = Recorder.summarize .full one.given.values) ∧
      (∀ earlier first second later, executed = earlier ++ first :: second :: later →
        first.record.errors = [] ∧
        (Json.ofDict (first.record.chained executor.registry) ==
          second.record.inputsSummary) = true ∧
        (executor.monitorPerformance = true → first.record.performance.resourceUsage =
          some (UInt64.ofNat second.given.serializedSize))) ∧
      (∀ final, (Walk.start start context).advanceAll executor told = .ended (.ok final) →
        ∃ last, executed.getLast? = some last ∧
          (Json.ofDict (last.record.chained executor.registry) ==
            Recorder.summarize .full final.values) = true) ∧
      ∀ one ∈ executed, executor.registry.runsLeaf one.record.nodeId = true →
        one.record.outputsSummary.field? Context.Key.actionParameters = none := by
  intro executed
  have standing := standing_along executor start context told
  have inputs : ∀ one ∈ executed,
      one.record.inputsSummary = Recorder.summarize .full one.given.values := by
    intro one inside
    obtain ⟨walk, id, rest, node, result, turn⟩ := standing.had_turn one inside
    exact turn.inputs full
  refine ⟨inputs, fun earlier first second later split => ?_, fun final ended => ?_,
    fun one inside runs => ?_⟩
  · have links := standing.links accepted.keyed full answers given
    have tells := List.isChain_iff_forall_rel_of_append_cons_cons.mp links split
    have within : second ∈ executed := by
      rw [split]
      exact List.mem_append_right _ (List.mem_cons_of_mem _ List.mem_cons_self)
    rw [inputs second within]
    exact ⟨tells.noErrors, tells.chained, tells.usage⟩
  · rw [ended] at standing
    obtain ⟨last, isLast, tells⟩ := Ended.last accepted.keyed full answers given standing
    exact ⟨last, isLast, tells.chained⟩
  · obtain ⟨walk, id, rest, node, result, turn⟩ := standing.had_turn one inside
    exact turn.no_parameters accepted.keyed full runs

end Records

namespace Executor.Sample

def relay : GraphDefinition where
  root := "take"
  dataFlowNodes := [{ id := "note", kind := .processor, outputs := ["noted"] }]
  decisionNodes := [
    { id := "take", behavior := .action ⟨.activate, "note", [⟨"loud", .bool true⟩]⟩,
      children := ["pass"] },
    { id := "pass", behavior := .action ⟨.configure, "", []⟩ }]

theorem answers_proper (graph : GraphDefinition) : (executor graph).leaves.Proper := by
  intro node context outputs replied key value found
  have nothing : outputs = Dict.empty := (Except.ok.inj replied).symm
  rw [nothing] at found
  cases found

theorem context_proper : context.Proper := by
  intro key value found
  cases found

end Executor.Sample

theorem relay_records_chain :
    let executor := Executor.Sample.executor Executor.Sample.relay
    let executed := (Walk.start "take" Executor.Sample.context).executedAlong executor
      (Executor.Sample.moments 3)
    ∃ first second, executed = [first, second] ∧ first.record.errors = [] ∧
      (Json.ofDict (first.record.chained executor.registry) == second.record.inputsSummary) =
        true := by
  intro executor executed
  have read : Registry.ofDefinition Executor.Sample.relay = .ok executor.registry := by rfl
  obtain ⟨-, links, -⟩ := records_chain (Registry.accepted_of_ofDefinition read) rfl
    (Executor.Sample.answers_proper _) "take" Executor.Sample.context_proper
    (Executor.Sample.moments 3)
  have two : ∃ first second, executed = [first, second] := ⟨_, _, rfl⟩
  obtain ⟨first, second, two⟩ := two
  obtain ⟨noErrors, chained, -⟩ := links [] first second [] two
  exact ⟨first, second, two, noErrors, chained⟩

end Switchyard
