import Switchyard.Proofs.Execution.Node
set_option autoImplicit false

/-! The steps of a walk, told apart by what they find on the stack, and what every step keeps: a
walk never leaves the correlation id that it began with. -/
namespace Switchyard

/-- What becomes of a walk that stands between two nodes. -/
inductive Visits (executor : Executor) (cancelled : Bool) (walk : Walk) :
    Stage × List Effect → Prop
  | atEnd (empty : walk.stack = []) : Visits executor cancelled walk (.ended (.ok walk.context), [])
  | stopped {id : String} {rest : List String} (next : walk.stack = id :: rest)
      (stop : cancelled = true) : Visits executor cancelled walk (.ended (.error .cancelled), [])
  | again {id : String} {rest : List String} (next : walk.stack = id :: rest)
      (seen : id ∈ walk.visited) :
      Visits executor cancelled walk (.ended (.error (.cycleDetected id)),
        [.warned (.cycleMet walk.context.correlationId id)])
  | missing {id : String} {rest : List String} (next : walk.stack = id :: rest)
      (unknown : executor.registry.decision? id = none) :
      Visits executor cancelled walk (.ended (.error (.missingNode id)), [])
  | done {id : String} {rest : List String} {node : DecisionNode}
      {result : Except NodeError NodeOutcome} {effects : List Effect}
      (next : walk.stack = id :: rest) (fresh : id ∉ walk.visited)
      (known : executor.registry.decision? id = some node)
      (node_done : executor.Done node walk.context result effects) :
      Visits executor cancelled walk
        (Walk.resume ⟨rest, id :: walk.visited, walk.context⟩ id result, effects)
  | waits {id : String} {rest : List String} {run : NodeRun} {effects : List Effect}
      (next : walk.stack = id :: rest) (fresh : id ∉ walk.visited)
      (known : executor.registry.decision? id = some run.node)
      (before : run.before = walk.context) (node_waits : Executor.Waits run)
      (quiet : ∀ effect ∈ effects, effect.Quiet) :
      Visits executor cancelled walk
        (.inside ⟨rest, id :: walk.visited, walk.context⟩ id run, effects)

theorem Walk.visitNext_visits (executor : Executor) (cancelled : Bool) (now : Timestamp)
    (walk : Walk) : Visits executor cancelled walk (walk.visitNext executor cancelled now) := by
  unfold visitNext
  split
  · rename_i empty
    exact .atEnd empty
  · rename_i id rest next
    split
    · rename_i stop
      exact .stopped next stop
    · split
      · rename_i seen
        exact .again next (List.contains_iff_mem.mp seen)
      · rename_i unseen
        have fresh : id ∉ walk.visited := fun inside => unseen (List.contains_iff_mem.mpr inside)
        split
        · rename_i unknown
          exact .missing next unknown
        · rename_i node known
          have spec := executor.begin_spec false now node walk.context
          dsimp only
          split
          · rename_i result effects began
            rw [began] at spec
            exact .done next fresh known spec
          · rename_i run effects began
            rw [began] at spec
            obtain ⟨quiet, same, before, waits⟩ := spec
            exact .waits next fresh (same ▸ known) before waits quiet

namespace Stage

def Of (id : String) : Stage → Prop
  | .between walk => walk.context.correlationId = id
  | .inside _ _ run => run.before.correlationId = id ∧ Executor.Waits run
  | .ended (.ok context) => context.correlationId = id
  | .ended (.error _) => True

theorem of_resume {executor : Executor} {node : DecisionNode} {before : Context}
    {result : Except NodeError NodeOutcome} {effects : List Effect}
    (done : executor.Done node before result effects) (walk : Walk) (id : String) :
    (walk.resume id result).Of before.correlationId := by
  cases result with
  | ok outcome => exact done.sameId outcome rfl
  | error error => trivial

theorem of_advance (executor : Executor) (cancelled : Bool) (now : Timestamp) {stage : Stage}
    {id : String} (own : stage.Of id) :
    (stage.advance executor cancelled now).1.Of id ∧
      ∀ effect ∈ (stage.advance executor cancelled now).2, effect.IsOf id := by
  cases stage with
  | ended result => exact ⟨own, fun effect inside => (List.not_mem_nil inside).elim⟩
  | inside walk visiting run =>
    obtain ⟨rfl, waits⟩ := own
    have done := executor.finish_done cancelled now waits
    exact ⟨of_resume done walk visiting, done.isOf⟩
  | between walk =>
    obtain rfl : walk.context.correlationId = id := own
    have visits := walk.visitNext_visits executor cancelled now
    change ((walk.visitNext executor cancelled now).1.Of _ ∧
      ∀ effect ∈ (walk.visitNext executor cancelled now).2, effect.IsOf _)
    generalize walk.visitNext executor cancelled now = step at visits ⊢
    cases visits with
    | atEnd empty => exact ⟨rfl, fun effect inside => (List.not_mem_nil inside).elim⟩
    | stopped next stop => exact ⟨trivial, fun effect inside => (List.not_mem_nil inside).elim⟩
    | again next seen =>
      refine ⟨trivial, fun effect inside => ?_⟩
      rw [List.mem_singleton.mp inside]
      trivial
    | missing next unknown => exact ⟨trivial, fun effect inside => (List.not_mem_nil inside).elim⟩
    | done next fresh known node_done => exact ⟨of_resume node_done _ _, node_done.isOf⟩
    | waits next fresh known before node_waits quiet =>
      exact ⟨⟨by rw [before], node_waits⟩, fun effect inside => (quiet effect inside).isOf _⟩

/-- A step of a walk leaves nothing behind, or the record of a node is among what it leaves. -/
theorem quiet_or_recorded (executor : Executor) (cancelled : Bool) (now : Timestamp)
    {stage : Stage} {id : String} (own : stage.Of id) :
    (∀ effect ∈ (stage.advance executor cancelled now).2, effect.Quiet) ∨
      ∃ node before startedAt endedAt result,
        (stage.advance executor cancelled now).2.filterMap Effect.record? =
          [executor.recordOf node before startedAt endedAt (executor.decision? node before)
            result] := by
  have recorded : ∀ {node : DecisionNode} {before : Context}
      {result : Except NodeError NodeOutcome} {effects : List Effect},
      executor.Done node before result effects →
      ∃ node before startedAt endedAt result, effects.filterMap Effect.record? =
        [executor.recordOf node before startedAt endedAt (executor.decision? node before)
          result] := by
    intro node before result effects done
    obtain ⟨startedAt, endedAt, -, record⟩ := done.record
    exact ⟨node, before, startedAt, endedAt, result, record⟩
  cases stage with
  | ended result => exact Or.inl fun effect inside => (List.not_mem_nil inside).elim
  | inside walk visiting run => exact Or.inr (recorded (executor.finish_done cancelled now own.2))
  | between walk =>
    have visits := walk.visitNext_visits executor cancelled now
    change (∀ effect ∈ (walk.visitNext executor cancelled now).2, effect.Quiet) ∨
      ∃ node before startedAt endedAt result,
        (walk.visitNext executor cancelled now).2.filterMap Effect.record? =
          [executor.recordOf node before startedAt endedAt (executor.decision? node before)
            result]
    generalize walk.visitNext executor cancelled now = step at visits ⊢
    cases visits with
    | atEnd empty => exact Or.inl fun effect inside => (List.not_mem_nil inside).elim
    | stopped next stop => exact Or.inl fun effect inside => (List.not_mem_nil inside).elim
    | again next seen =>
      refine Or.inl fun effect inside => ?_
      rw [List.mem_singleton.mp inside]
      trivial
    | missing next unknown => exact Or.inl fun effect inside => (List.not_mem_nil inside).elim
    | done next fresh known node_done => exact Or.inr (recorded node_done)
    | waits next fresh known before node_waits quiet => exact Or.inl quiet

end Stage

end Switchyard
