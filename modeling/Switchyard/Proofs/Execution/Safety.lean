import Mathlib.Data.List.Nodup
import Switchyard.Proofs.Execution.Turns
import Switchyard.Proofs.Registry.Links
set_option autoImplicit false

/-! Walks of a registry that has passed its checks. Main statement: `walk_safe`, such a walk ends,
meets no id that is not registered and executes no node twice, whatever the nodes do. -/
namespace Switchyard

/-- What turns keep to: every id that has been met is registered, no node has had two turns, and the
records name the nodes in the order in which they had theirs. -/
structure Orderly (registry : Registry) (executed : List Executed) (walk : Walk) : Prop where
  recorded : executed.map (·.record.nodeId) = walk.visited.reverse
  once : walk.visited.Nodup
  visited : ∀ id ∈ walk.visited, ∃ node, registry.decision? id = some node
  stack : ∀ id ∈ walk.stack, ∃ node, registry.decision? id = some node

section Orderly

variable {executor : Executor} {context : Context}

theorem Turn.nodeId {walk : Walk} {id : String} {rest : List String} {node : DecisionNode}
    {result : Except NodeError NodeOutcome} {last : Executed}
    (turn : Turn executor walk id rest node result last) (keyed : executor.registry.Keyed) :
    last.record.nodeId = id := by
  obtain ⟨startedAt, now, decision, recorded⟩ := turn.recorded
  rw [recorded]
  exact keyed id node turn.known

theorem Turn.next_sublist {walk : Walk} {id : String} {rest : List String} {node : DecisionNode}
    {outcome : NodeOutcome} {last : Executed}
    (turn : Turn executor walk id rest node (.ok outcome) last) :
    outcome.next.Sublist node.targets := by
  obtain ⟨stopped, ended⟩ := turn.ended
  exact Executor.next_sublist (Executor.leaves_of_outcome ended)

theorem Reached.orderly (accepted : executor.registry.Accepted) {executed : List Executed}
    {walk : Walk} (reached : Reached executor executor.registry.root context executed walk) :
    Orderly executor.registry executed walk := by
  have closed := accepted.closed
  induction reached with
  | start =>
    refine ⟨rfl, List.nodup_nil, fun id inside => (List.not_mem_nil inside).elim,
      fun id inside => ?_⟩
    rw [List.mem_singleton.mp inside]
    exact closed.root
  | @turn executed walk id rest node outcome last before turn ih =>
    refine ⟨?_, List.nodup_cons.mpr ⟨turn.fresh, ih.once⟩, fun other inside => ?_,
      fun other inside => ?_⟩
    · rw [List.map_append, ih.recorded, List.reverse_cons, List.map_singleton,
        turn.nodeId accepted.keyed]
    · rcases List.mem_cons.mp inside with rfl | earlier
      · exact ⟨node, turn.known⟩
      · exact ih.visited other earlier
    · rcases List.mem_append.mp inside with pushed | below
      · exact closed.links turn.known other (turn.next_sublist.subset pushed)
      · refine ih.stack other ?_
        rw [turn.next]
        exact List.mem_cons_of_mem _ below

/-- What is true of a walk at any moment, in the middle of a turn as well. -/
structure Safe (registry : Registry) (executed : List Executed) (stage : Stage) : Prop where
  once : (executed.map (·.record.nodeId) ++ stage.current).Nodup
  begun : ∀ id ∈ executed.map (·.record.nodeId) ++ stage.current,
    ∃ node, registry.decision? id = some node
  waiting : ∀ id ∈ stage.waiting, ∃ node, registry.decision? id = some node
  found : ∀ id, stage ≠ .ended (.error (.missingNode id))

theorem Orderly.once_recorded {registry : Registry} {executed : List Executed} {walk : Walk}
    (orderly : Orderly registry executed walk) :
    (executed.map (·.record.nodeId)).Nodup := by
  rw [orderly.recorded]
  exact List.nodup_reverse.mpr orderly.once

theorem Orderly.recorded_known {registry : Registry} {executed : List Executed} {walk : Walk}
    (orderly : Orderly registry executed walk) :
    ∀ id ∈ executed.map (·.record.nodeId), ∃ node, registry.decision? id = some node := by
  intro id inside
  rw [orderly.recorded] at inside
  exact orderly.visited id (List.mem_reverse.mp inside)

theorem Orderly.safe_ended {registry : Registry} {executed : List Executed} {walk : Walk}
    (orderly : Orderly registry executed walk) {result : Except WalkError Context}
    (found : ∀ id, result ≠ .error (.missingNode id)) : Safe registry executed (.ended result) where
  once := by
    rw [Stage.current, List.append_nil]
    exact orderly.once_recorded
  begun := by
    rw [Stage.current, List.append_nil]
    exact orderly.recorded_known
  waiting := fun id inside => (List.not_mem_nil inside).elim
  found := fun id same => found id (Stage.ended.inj same)

theorem Orderly.after_failure {registry : Registry} {executed : List Executed} {walk : Walk}
    (orderly : Orderly registry executed walk) {last : Executed}
    (fresh : last.record.nodeId ∉ walk.visited) {node : DecisionNode}
    (known : registry.decision? last.record.nodeId = some node) :
    Orderly registry (executed ++ [last])
      ⟨[], last.record.nodeId :: walk.visited, walk.context⟩ where
  recorded := by
    rw [List.map_append, orderly.recorded, List.reverse_cons, List.map_singleton]
  once := List.nodup_cons.mpr ⟨fresh, orderly.once⟩
  visited := List.forall_mem_cons.mpr ⟨⟨node, known⟩, orderly.visited⟩
  stack := fun id inside => (List.not_mem_nil inside).elim

theorem Standing.safe (accepted : executor.registry.Accepted) {executed : List Executed}
    {stage : Stage}
    (standing : Standing executor executor.registry.root context executed stage) :
    Safe executor.registry executed stage := by
  cases stage with
  | between walk =>
    have orderly := Reached.orderly accepted standing
    refine ⟨?_, ?_, orderly.stack, fun id same => by cases same⟩
    · rw [Stage.current, List.append_nil]
      exact orderly.once_recorded
    · rw [Stage.current, List.append_nil]
      exact orderly.recorded_known
  | inside walk id run =>
    obtain ⟨visited, -, fresh, known, -, -, before⟩ := standing
    have orderly := Reached.orderly accepted before
    have unrecorded : id ∉ executed.map (·.record.nodeId) := by
      rw [orderly.recorded, List.mem_reverse]
      exact fresh
    refine ⟨?_, fun other inside => ?_, fun other inside => ?_, fun other same => by cases same⟩
    · refine List.nodup_append.mpr ⟨orderly.once_recorded, List.nodup_singleton id, ?_⟩
      rintro other recorded last inside rfl
      rw [List.mem_singleton.mp inside] at recorded
      exact unrecorded recorded
    · rcases List.mem_append.mp inside with recorded | current
      · exact orderly.recorded_known other recorded
      · rw [List.mem_singleton.mp current]
        exact ⟨run.node, known⟩
    · exact orderly.stack other (List.mem_cons_of_mem _ inside)
  | ended result =>
    cases standing with
    | atEnd before empty => exact (Reached.orderly accepted before).safe_ended fun _ => nofun
    | stopped before => exact (Reached.orderly accepted before).safe_ended fun _ => nofun
    | again before next seen =>
      exact (Reached.orderly accepted before).safe_ended fun _ => nofun
    | missing before next unknown =>
      obtain ⟨node, known⟩ := (Reached.orderly accepted before).stack _
        (next ▸ List.mem_cons_self)
      rw [known] at unknown
      cases unknown
    | @failed executed walk id rest node cause last before turn =>
      have sameId := turn.nodeId accepted.keyed
      have orderly := (Reached.orderly accepted before).after_failure
        (sameId ▸ turn.fresh) (sameId ▸ turn.known)
      refine orderly.safe_ended fun other => ?_
      cases cause <;> nofun

/-- A walk ends, if not before, after two steps for every node that is registered and one more. -/
theorem walk_ends (executor : Executor) (start : String) (context : Context)
    {told : List (Timestamp × Bool)}
    (enough : 2 * executor.registry.decision.size + 1 ≤ told.length) :
    ∃ result, (Walk.start start context).advanceAll executor told = .ended result := by
  have all : Stage.unvisited executor.registry [] ≤ executor.registry.decision.keys.length :=
    List.countP_le_length
  rw [Dict.length_keys] at all
  have steps : (Walk.start start context).stepsLeft executor.registry ≤ told.length := by
    change 2 * Stage.unvisited executor.registry [] + 1 ≤ told.length
    omega
  exact Stage.ended_of_stepsLeft executor _ steps

/-- A walk of a registry that has passed its checks ends after as many steps as it can need,
whatever its nodes do and whenever it is cancelled. Until then no id waits that is not registered,
so none is missed in the end; and every node has at most one turn, so that no more nodes are
executed than there are. -/
theorem walk_safe {executor : Executor} (accepted : executor.registry.Accepted)
    (context : Context) (told : List (Timestamp × Bool)) :
    let start := Walk.start executor.registry.root context
    let stage := start.advanceAll executor told
    let begun := (start.executedAlong executor told).map (·.record.nodeId) ++ stage.current
    (2 * executor.registry.decision.size + 1 ≤ told.length → ∃ result, stage = .ended result) ∧
      (∀ id, stage ≠ .ended (.error (.missingNode id))) ∧
      begun.Nodup ∧ begun.length ≤ executor.registry.decision.size ∧
      ∀ id ∈ begun ++ stage.waiting, ∃ node, executor.registry.decision? id = some node := by
  intro start stage begun
  have standing := standing_along executor executor.registry.root context told
  have safe : Safe executor.registry (start.executedAlong executor told) stage :=
    Standing.safe accepted standing
  have withinKeys : begun ⊆ executor.registry.decision.keys := by
    intro id inside
    obtain ⟨node, known⟩ := safe.begun id inside
    rw [Dict.mem_keys_iff, Dict.contains_iff]
    exact ⟨node, known⟩
  have noMore : begun.length ≤ executor.registry.decision.keys.length :=
    safe.once.length_le_of_subset withinKeys
  rw [Dict.length_keys] at noMore
  exact ⟨walk_ends executor _ context, safe.found, safe.once, noMore,
    List.forall_mem_append.mpr ⟨safe.begun, safe.waiting⟩⟩

end Orderly

namespace Executor.Sample

def circle : GraphDefinition where
  root := "tick"
  decisionNodes := [
    { id := "tick", behavior := .action ⟨.configure, "", []⟩, children := ["tock"] },
    { id := "tock", behavior := .action ⟨.configure, "", []⟩, children := ["tick"] }]

def executor (graph : GraphDefinition) : Executor where
  registry := {
    dataFlow := Dict.ofList (graph.dataFlowNodes.map fun node => (node.id, node))
    decision := Dict.ofList (graph.decisionNodes.map fun node => (node.id, node))
    root := graph.root
    hasCycle := hasCycle (Dict.ofList (graph.decisionNodes.map fun node => (node.id, node))) }
  predicates := Dict.empty
  leaves := { validateInputs := false }
  capability := fun _ => { outcome := .error (.unavailable "nobody to ask") }
  traceMode := .full
  monitorPerformance := true
  capabilityTimeoutMs := 0

def context : Context := Context.ofRequest "sample" .null Dict.empty

def moments (count : Nat) : List (Timestamp × Bool) :=
  List.replicate count (⟨0, false⟩, false)

end Executor.Sample

theorem circle_walk_safe :
    let executor := Executor.Sample.executor Executor.Sample.circle
    let start := Walk.start "tick" Executor.Sample.context
    let stage := start.advanceAll executor (Executor.Sample.moments 5)
    executor.registry.Accepted ∧ (∃ result, stage = .ended result) ∧
      ∀ id, stage ≠ .ended (.error (.missingNode id)) := by
  have read : Registry.ofDefinition Executor.Sample.circle =
      .ok (Executor.Sample.executor Executor.Sample.circle).registry := by rfl
  have accepted := Registry.accepted_of_ofDefinition read
  obtain ⟨ends, found, -⟩ :=
    walk_safe accepted Executor.Sample.context (Executor.Sample.moments 5)
  exact ⟨accepted, ends (by decide), found⟩

end Switchyard
