import Switchyard.Proofs.Execution.DepthFirst
import Switchyard.Proofs.Execution.Turns
set_option autoImplicit false

/-! Which nodes a walk visits and where it fails, node by node. Main statement: `Tours.along`, a
walk that is not cancelled visits the same nodes whenever its steps are taken. -/
namespace Switchyard

def visits (effects : List Effect) : List (String × List String) :=
  (effects.filterMap Effect.record?).map fun record => (record.nodeId, record.errors)

theorem visits_append (first later : List Effect) :
    visits (first ++ later) = visits first ++ visits later := by
  rw [visits, List.filterMap_append, List.map_append]
  rfl

theorem visits_of_quiet {effects : List Effect} (quiet : ∀ effect ∈ effects, effect.Quiet) :
    visits effects = [] := by
  rw [visits, Effect.filterMap_record?_of_quiet quiet]
  rfl

theorem visits_untimed (effects : List Effect) :
    visits (effects.map Effect.untimed) = visits effects := by
  rw [visits, Effect.filterMap_record?_untimed, List.map_map]
  rfl

def NodeError.listed : Except NodeError NodeOutcome → List String
  | .ok _ => []
  | .error cause => [cause.message]

/-- From here the walk visits these nodes and comes to this result. -/
structure Tours (executor : Executor) (now : Timestamp) (stage : Stage)
    (path : List (String × List String)) (result : Except WalkError Context) : Prop where
  result : (stage.finish executor false now).1 = result
  path : visits (stage.finish executor false now).2 = path

section Tours

variable {executor : Executor} {now : Timestamp}

/-- Steps that no cancellation disturbs take the walk along its nodes to its result. -/
theorem Tours.along {stage : Stage} {path : List (String × List String)}
    {result : Except WalkError Context} (tours : Tours executor now stage path result)
    {told : List (Timestamp × Bool)} {reached : Except WalkError Context}
    (uncancelled : ∀ moment ∈ told, moment.2 = false)
    (ended : stage.advanceAll executor told = .ended reached) :
    reached = result ∧ visits (stage.effectsAlong executor told) = path := by
  constructor
  · exact (Stage.finish_of_advanceAll executor now uncancelled ended).symm.trans tours.result
  · rw [← visits_untimed, Stage.effectsAlong_untimed executor stage now uncancelled ended,
      visits_untimed]
    exact tours.path

end Tours

end Switchyard
