import Switchyard.Proofs.Execution.Visits
set_option autoImplicit false

/-! What a walk leaves for others to see: the nodes that it has visited, with what their conditions
have decided and what they complain about, and the decisions of the capability orchestrator in
between. Main statements: `Executor.footprints_execute`, the footprints of a node depend only on the
node, on its context and on cancellation, and `Treads.along`, those of a walk do not depend on when
its steps are taken. -/
namespace Switchyard

inductive Footprint where
  | visited (nodeId : String) (decision : Option DecisionOutcome) (errors : List String)
  | chose (decision : CapabilityDecision)

def TraceRecord.footprint (record : TraceRecord) : Footprint :=
  .visited record.nodeId record.decision record.errors

def Effect.footprint? : Effect → Option Footprint
  | .recorded record => some record.footprint
  | .decided _ decision => some (.chose decision)
  | .warned _ | .asked _ | .activated .. | .calledLegacy _ => none

def footprints (effects : List Effect) : List Footprint := effects.filterMap Effect.footprint?

@[simp] theorem footprints_append (first later : List Effect) :
    footprints (first ++ later) = footprints first ++ footprints later :=
  List.filterMap_append

theorem footprints_of_quiet {effects : List Effect} (quiet : ∀ effect ∈ effects, effect.Quiet) :
    footprints effects = [] :=
  Effect.filterMap_of_quiet (fun effect still => by cases effect <;> cases still <;> rfl) quiet

@[simp] theorem footprints_warnings (list : List Warning) :
    footprints (Effect.warnings list) = [] :=
  footprints_of_quiet fun _ inside => Effect.quiet_of_mem_warnings inside

theorem footprints_untimed (effects : List Effect) :
    footprints (effects.map Effect.untimed) = footprints effects := by
  rw [footprints, footprints, List.filterMap_map]
  congr 1
  funext effect
  cases effect <;> rfl

/-! What can be read off footprints. -/

namespace Footprint

def visit? : Footprint → Option (String × List String)
  | .visited nodeId _ errors => some (nodeId, errors)
  | .chose _ => none

def choice? : Footprint → Option CapabilityDecision
  | .visited .. => none
  | .chose decision => some decision

end Footprint

theorem filterMap_visit?_footprints (effects : List Effect) :
    (footprints effects).filterMap Footprint.visit? = visits effects := by
  rw [footprints, visits, List.filterMap_filterMap, List.map_filterMap]
  congr 1
  funext effect
  cases effect <;> rfl

theorem filterMap_choice?_footprints (effects : List Effect) :
    (footprints effects).filterMap Footprint.choice? =
      (effects.filterMap Effect.decision?).map (·.2) := by
  rw [footprints, List.filterMap_filterMap, List.map_filterMap]
  congr 1
  funext effect
  cases effect <;> rfl

/-! The footprints of one node. -/

namespace Executor

variable (executor : Executor)

/-- The decision that work gets from the capability orchestrator in time. -/
def choice? : Work → Option CapabilityDecision
  | .leaf .. => none
  | .capability request _ =>
    if executor.capabilityTimeoutMs.toNat < (executor.capability request).delayMs then none
    else (executor.capability request).outcome.toOption

/-- What a node leaves on its way to its end; `stopped` tells whether the request has been cancelled
by then. -/
def footprints (stopped : Bool) (node : DecisionNode) (context : Context) : List Footprint :=
  match (executor.enter node context).1 with
  | .settled _ decision => [.visited node.id decision []]
  | .handedOut work =>
    (if stopped then none else executor.choice? work).toList.map .chose ++
      [.visited node.id none (NodeError.listed (executor.outcome stopped node context))]

theorem footprint_recordOf (node : DecisionNode) (before : Context) (startedAt now : Timestamp)
    (decision : Option DecisionOutcome) (result : Except NodeError NodeOutcome) :
    Switchyard.footprints [.recorded (executor.recordOf node before startedAt now decision result)] =
      [.visited node.id decision (NodeError.listed result)] := by
  cases result <;> rfl

theorem footprints_answer (work : Work) :
    Switchyard.footprints (executor.answer work).2 =
      (executor.choice? work).toList.map .chose := by
  cases work with
  | leaf node context =>
    unfold answer
    dsimp only
    split
    · exact footprints_warnings _
    · rfl
  | capability request context =>
    unfold answer choice?
    dsimp only
    split
    · rfl
    · cases (executor.capability request).outcome with
      | ok decision =>
        dsimp only
        rw [footprints_append, footprints_warnings]
        rfl
      | error error => rfl

theorem footprints_settle (stopped : Bool) (startedAt now : Timestamp) (work : Work) :
    Switchyard.footprints (executor.settle stopped startedAt now work).2 =
      (if stopped then none else executor.choice? work).toList.map .chose := by
  have closing : ∀ result, Switchyard.footprints (close work startedAt now result).2 = [] := by
    intro result
    cases work <;> rfl
  cases stopped with
  | true => simp [settle, closing]
  | false => simp [settle, closing, footprints_answer]

/-- Work that a node has handed out leaves the footprints of the node. -/
theorem footprints_finish {run : NodeRun}
    (entered : (executor.enter run.node run.before).1 = .handedOut run.work) (stopped : Bool)
    (now : Timestamp) :
    Switchyard.footprints (executor.finish stopped now run).2 =
      executor.footprints stopped run.node run.before := by
  have ended := finish_outcome entered stopped now
  have settled := executor.footprints_settle stopped run.startedAt now run.work
  rw [footprints, entered]
  dsimp only
  rw [← ended, ← settled]
  exact (footprints_append _ _).trans (congrArg _ (executor.footprint_recordOf _ _ _ _ _ _))

/-- A node that begins has left its footprints once it is done, and none before. -/
theorem footprints_begin (stopped : Bool) (now : Timestamp) (node : DecisionNode)
    (context : Context) :
    Switchyard.footprints (executor.begin stopped now node context).2 =
      match (executor.begin stopped now node context).1 with
      | .inl _ => executor.footprints stopped node context
      | .inr _ => [] := by
  obtain ⟨quiet, nothing, ⟨outcome, decision, settled, began⟩ | ⟨work, handedOut, ended | waits⟩⟩ :=
    executor.begin_cases stopped now node context
  · rw [began]
    dsimp only
    rw [footprints_append, footprints_of_quiet nothing, footprint_recordOf, footprints, settled]
    rfl
  · have finished := @footprints_finish executor ⟨node, context, now, work⟩ handedOut stopped now
    rw [ended]
    dsimp only
    rw [footprints_append, footprints_of_quiet nothing, finished]
    rfl
  · rw [waits]
    exact footprints_of_quiet nothing

theorem footprints_execute (stopped : Bool) (now : Timestamp) (node : DecisionNode)
    (context : Context) :
    Switchyard.footprints (executor.execute stopped now node context).2 =
      executor.footprints stopped node context := by
  have came := executor.begin_outcome stopped now node context
  have left := executor.footprints_begin stopped now node context
  unfold execute
  generalize executor.begin stopped now node context = began at came left ⊢
  obtain ⟨result | run, effects⟩ := began
  · exact left
  · obtain ⟨rfl, rfl, handedOut⟩ := came
    have finished := executor.footprints_finish handedOut stopped now
    dsimp only at left ⊢
    rw [footprints_append, left, finished]
    rfl

/-! The footprints in equations, one for each kind of node that the built-in graph has. -/

section Kinds

variable {executor} {node : DecisionNode} {context : Context} {action : NodeAction}

theorem footprints_condition {predicate : String} {whenTrue whenFalse : Option String}
    (behavior : node.behavior = .condition predicate whenTrue whenFalse) (stopped : Bool) :
    executor.footprints stopped node context =
      [.visited node.id (some ⟨predicate,
        (Condition.evaluate executor.predicates predicate context).result,
        (Condition.evaluate executor.predicates predicate context).reasoning⟩) []] := by
  simp only [footprints, enter, behavior]

theorem footprints_action (behavior : node.behavior = .action action) {leaf : DataFlowNode}
    (resolved : executor.registry.dataFlow? action.target = some leaf) (stopped : Bool) :
    executor.footprints stopped node context =
      [.visited node.id none (NodeError.listed (executor.outcome stopped node context))] := by
  have nothing : (if stopped then none else
      executor.choice? (.leaf leaf (withParameters action context))) = none := by
    cases stopped <;> rfl
  simp only [footprints, enter, behavior, resolved, nothing]
  rfl

theorem footprints_capability (behavior : node.behavior = .capability action) :
    executor.footprints false node context =
      (executor.choice? (.capability (capabilityRequest node action context) context)).toList.map
        .chose ++
      [.visited node.id none (NodeError.listed (executor.outcome false node context))] := by
  simp only [footprints, enter, behavior, Bool.false_eq_true, if_false]

end Kinds

end Executor

/-! The footprints of a walk. -/

/-- From here the walk leaves these footprints and comes to this result. -/
structure Treads (executor : Executor) (now : Timestamp) (stage : Stage) (path : List Footprint)
    (result : Except WalkError Context) : Prop where
  result : (stage.finish executor false now).1 = result
  path : footprints (stage.finish executor false now).2 = path

section Treads

variable {executor : Executor} {now : Timestamp} {id : String} {rest visited : List String}
  {context : Context} {node : DecisionNode}

theorem treads_nil (executor : Executor) (now : Timestamp) (visited : List String)
    (context : Context) :
    Treads executor now (.between ⟨[], visited, context⟩) [] (.ok context) := by
  have ends : (Stage.between ⟨[], visited, context⟩).finish executor false now =
      (.ok context, []) := by
    rw [Stage.finish_eq_advance]
    simp only [Stage.advance, Walk.visitNext]
    rw [Stage.finish]
    rfl
  constructor <;> rw [ends]
  rfl

/-- A node that ends well is visited first, and then the nodes that it goes on to. -/
theorem Treads.visit (fresh : visited.contains id = false)
    (known : executor.registry.decision? id = some node) {outcome : NodeOutcome}
    (ends : executor.outcome false node context = .ok outcome) {path : List Footprint}
    {result : Except WalkError Context}
    (later : Treads executor now (.between ⟨outcome.next ++ rest, id :: visited, outcome.context⟩)
      path result) :
    Treads executor now (.between ⟨id :: rest, visited, context⟩)
      (executor.footprints false node context ++ path) result := by
  have executed := executor.execute_outcome false now node context
  have left := executor.footprints_execute false now node context
  rw [ends] at executed
  have goesOn :=
    DepthFirst.finish_between_cons executor now rest context (Bool.eq_false_iff.mp fresh) known
  generalize executor.execute false now node context = execution at executed left goesOn
  obtain ⟨ended, effects⟩ := execution
  obtain rfl : ended = .ok outcome := executed
  constructor
  · rw [goesOn]
    exact later.result
  · rw [goesOn]
    dsimp only at left ⊢
    rw [footprints_append, left, later.path]

/-- A node that fails is the last to be visited. -/
theorem treads_failed (fresh : visited.contains id = false)
    (known : executor.registry.decision? id = some node) {cause : NodeError}
    (fails : executor.outcome false node context = .error cause) (rest : List String) :
    Treads executor now (.between ⟨id :: rest, visited, context⟩)
      (executor.footprints false node context) (.error (.nodeFailed id cause)) := by
  have executed := executor.execute_outcome false now node context
  have left := executor.footprints_execute false now node context
  rw [fails] at executed
  have stops :=
    DepthFirst.finish_between_cons executor now rest context (Bool.eq_false_iff.mp fresh) known
  generalize executor.execute false now node context = execution at executed left stops
  obtain ⟨ended, effects⟩ := execution
  obtain rfl : ended = .error cause := executed
  constructor
  · rw [stops]
  · rw [stops]
    exact left

/-- Steps that no cancellation disturbs leave the footprints of the walk and come to its result. -/
theorem Treads.along {stage : Stage} {path : List Footprint} {result : Except WalkError Context}
    (treads : Treads executor now stage path result) {told : List (Timestamp × Bool)}
    {reached : Except WalkError Context} (uncancelled : ∀ moment ∈ told, moment.2 = false)
    (ended : stage.advanceAll executor told = .ended reached) :
    reached = result ∧ footprints (stage.effectsAlong executor told) = path := by
  constructor
  · exact (Stage.finish_of_advanceAll executor now uncancelled ended).symm.trans treads.result
  · rw [← footprints_untimed, Stage.effectsAlong_untimed executor stage now uncancelled ended,
      footprints_untimed]
    exact treads.path

/-- A cancelled walk takes the step that it would take anyway, or fails. -/
theorem Stage.advance_cancelled (executor : Executor) (now : Timestamp) (stage : Stage) :
    stage.advance executor true now = stage.advance executor false now ∨
      ∃ error, (stage.advance executor true now).1 = .ended (.error error) := by
  cases stage with
  | ended result => exact Or.inl rfl
  | inside walk id run =>
    have stops : (executor.finish true now run).1 = .error .cancelled := by
      obtain ⟨node, before, startedAt, work⟩ := run
      cases work <;> rfl
    refine Or.inr ⟨.cancelled, ?_⟩
    simp only [advance, stops]
    rfl
  | between walk =>
    obtain ⟨stack, visited, context⟩ := walk
    cases stack with
    | nil => exact Or.inl rfl
    | cons id rest => exact Or.inr ⟨.cancelled, rfl⟩

/-- A walk that has come to its end in spite of all cancellations has come to where it would have
come without them. -/
theorem Treads.result_of_ok {stage : Stage} {path : List Footprint}
    {result : Except WalkError Context} (treads : Treads executor now stage path result)
    {told : List (Timestamp × Bool)} {after : Context}
    (ended : stage.advanceAll executor told = .ended (.ok after)) : result = .ok after := by
  have calmly : ∃ calm : List (Timestamp × Bool), (∀ moment ∈ calm, moment.2 = false) ∧
      stage.advanceAll executor calm = .ended (.ok after) := by
    clear treads
    induction told generalizing stage with
    | nil => exact ⟨[], List.forall_mem_nil _, ended⟩
    | cons moment later ih =>
      obtain ⟨time, stopped⟩ := moment
      rw [Stage.advanceAll_cons] at ended
      obtain ⟨calm, uncancelled, goesOn⟩ := ih ended
      have same : (stage.advance executor stopped time).1 =
          (stage.advance executor false time).1 := by
        cases stopped with
        | false => rfl
        | true =>
          rcases stage.advance_cancelled executor time with unmoved | ⟨error, failed⟩
          · rw [unmoved]
          · rw [failed, Stage.advanceAll_ended] at ended
            cases ended
      refine ⟨(time, false) :: calm, List.forall_mem_cons.mpr ⟨rfl, uncancelled⟩, ?_⟩
      rw [Stage.advanceAll_cons, ← same]
      exact goesOn
  obtain ⟨calm, uncancelled, comes⟩ := calmly
  exact (treads.along uncancelled comes).1.symm

end Treads

end Switchyard
