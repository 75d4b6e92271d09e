import Switchyard.Execution.Node
set_option autoImplicit false

/-! Walking the decision graph. The nodes still to visit lie on a stack; the nodes that a node goes
on to are pushed so that the first of them is visited next. No node is visited twice in one walk, so
every walk ends: each step uses up a registered node that was not visited before. -/
namespace Switchyard

inductive WalkError where
  | missingNode (id : String)
  | cycleDetected (id : String)
  | nodeFailed (id : String) (cause : NodeError)
  | cancelled
  deriving Repr, DecidableEq

namespace WalkError

def kind : WalkError → String
  | .missingNode _ => "MissingNode"
  | .cycleDetected _ => "CycleDetected"
  | .nodeFailed .. => "NodeFailed"
  | .cancelled => "Cancelled"

def message : WalkError → String
  | .missingNode id => "decision node not found: " ++ id
  | .cycleDetected id => "cycle detected: decision node " ++ id ++ " visited twice in one walk"
  | .nodeFailed id cause => "node " ++ id ++ " failed: " ++ cause.message
  | .cancelled => "walk cancelled"

/-- The graph itself is at fault. -/
def isTraversal : WalkError → Bool
  | .missingNode _ | .cycleDetected _ => true
  | .nodeFailed .. | .cancelled => false

def cause? : WalkError → Option NodeError
  | .nodeFailed _ cause => some cause
  | _ => none

/-- A node that was cancelled means a walk that was cancelled. -/
def ofNode (id : String) : NodeError → WalkError
  | .cancelled => .cancelled
  | cause => .nodeFailed id cause

end WalkError

structure Walk where
  /-- The nodes still to visit, the next one first. -/
  stack : List String
  visited : List String
  context : Context

inductive Stage where
  | between (walk : Walk)
  /-- Inside the node of an id; its outcome is to go on with the walk as it stands. -/
  | inside (walk : Walk) (id : String) (run : NodeRun)
  | ended (result : Except WalkError Context)

namespace Walk

def start (id : String) (context : Context) : Stage := .between ⟨[id], [], context⟩

def resume (walk : Walk) (id : String) : Except NodeError NodeOutcome → Stage
  | .ok outcome => .between ⟨outcome.next ++ walk.stack, walk.visited, outcome.context⟩
  | .error error => .ended (.error (WalkError.ofNode id error))

def visitNext (executor : Executor) (cancelled : Bool) (now : Timestamp) (walk : Walk) :
    Stage × List Effect :=
  match walk.stack with
  | [] => (.ended (.ok walk.context), [])
  | id :: rest =>
    if cancelled then (.ended (.error .cancelled), [])
    else if walk.visited.contains id then
      (.ended (.error (.cycleDetected id)), [.warned (.cycleMet walk.context.correlationId id)])
    else match executor.registry.decision? id with
      | none => (.ended (.error (.missingNode id)), [])
      | some node =>
        let walk : Walk := ⟨rest, id :: walk.visited, walk.context⟩
        match executor.begin false now node walk.context with
        | (.inl result, effects) => (walk.resume id result, effects)
        | (.inr run, effects) => (.inside walk id run, effects)

end Walk

namespace Stage

/-- One step of a walk: visits a node, or ends the node that the walk is inside of. -/
def advance (executor : Executor) (cancelled : Bool) (now : Timestamp) :
    Stage → Stage × List Effect
  | .between walk => walk.visitNext executor cancelled now
  | .inside walk id run =>
    let (result, effects) := executor.finish cancelled now run
    (walk.resume id result, effects)
  | .ended result => (.ended result, [])

/-- How many registered nodes have not been visited. -/
def unvisited (registry : Registry) (visited : List String) : Nat :=
  registry.decision.keys.countP fun id => !visited.contains id

/-- A bound on the steps that a walk can still take. -/
def stepsLeft (registry : Registry) : Stage → Nat
  | .between walk => 2 * unvisited registry walk.visited + 1
  | .inside walk .. => 2 * unvisited registry walk.visited + 2
  | .ended _ => 0

theorem unvisited_cons_lt {registry : Registry} {id : String} {visited : List String}
    (fresh : visited.contains id = false) (known : id ∈ registry.decision.keys) :
    unvisited registry (id :: visited) < unvisited registry visited := by
  unfold unvisited
  generalize registry.decision.keys = keys at known
  have weaker : ∀ list : List String,
      (list.countP fun key => !(id :: visited).contains key) ≤
        (list.countP fun key => !visited.contains key) := fun list =>
    List.countP_mono_left fun key _ => by simp
  induction keys with
  | nil => simp at known
  | cons head rest ih =>
    rw [List.countP_cons, List.countP_cons]
    by_cases same : head = id
    · subst same
      have bound := weaker rest
      have gone : (!(head :: visited).contains head) = false := by simp
      rw [gone, fresh]
      simp only [Bool.not_false, Bool.false_eq_true, if_false, if_true]
      omega
    · have inRest : id ∈ rest := by
        rcases List.mem_cons.mp known with equal | later
        · exact absurd equal.symm same
        · exact later
      have shorter := ih inRest
      have unchanged : (id :: visited).contains head = visited.contains head := by
        simp [same]
      rw [unchanged]
      omega

theorem stepsLeft_resume_lt (registry : Registry) (walk : Walk) (id : String)
    (result : Except NodeError NodeOutcome) :
    stepsLeft registry (walk.resume id result) < 2 * unvisited registry walk.visited + 2 := by
  cases result <;> simp [Walk.resume, stepsLeft]

/-- Every step of a walk that is not over brings its end nearer. -/
theorem stepsLeft_advance_lt (executor : Executor) (cancelled : Bool) (now : Timestamp)
    (stage : Stage) (going : ∀ result, stage ≠ .ended result) :
    stepsLeft executor.registry (stage.advance executor cancelled now).1 <
      stepsLeft executor.registry stage := by
  cases stage with
  | ended result => exact absurd rfl (going result)
  | inside walk id run => exact stepsLeft_resume_lt executor.registry walk id _
  | between walk =>
    obtain ⟨stack, visited, context⟩ := walk
    simp only [advance, Walk.visitNext]
    cases stack with
    | nil => simp [stepsLeft]
    | cons id rest =>
      dsimp only
      split
      · simp [stepsLeft]
      · split
        · simp [stepsLeft]
        · rename_i fresh
          split
          · simp [stepsLeft]
          · rename_i node found
            have known : id ∈ executor.registry.decision.keys := by
              rw [Dict.mem_keys_iff, Dict.contains_iff]
              exact ⟨node, found⟩
            have fewer := unvisited_cons_lt (Bool.eq_false_iff.mpr fresh) known
            split
            · rename_i result effects _
              have bound := stepsLeft_resume_lt executor.registry
                ⟨rest, id :: visited, context⟩ id result
              simp only [stepsLeft] at bound ⊢
              omega
            · simp only [stepsLeft]
              omega

/-- Takes steps until the walk is over, waiting for nothing. -/
def finish (executor : Executor) (cancelled : Bool) (now : Timestamp) :
    Stage → Except WalkError Context × List Effect
  | .ended result => (result, [])
  | .between walk =>
    let step := advance executor cancelled now (.between walk)
    let rest := finish executor cancelled now step.1
    (rest.1, step.2 ++ rest.2)
  | .inside walk id run =>
    let step := advance executor cancelled now (.inside walk id run)
    let rest := finish executor cancelled now step.1
    (rest.1, step.2 ++ rest.2)
termination_by stage => stage.stepsLeft executor.registry
decreasing_by
  all_goals exact stepsLeft_advance_lt executor cancelled now _ (by simp)

end Stage

def Executor.walk (executor : Executor) (cancelled : Bool) (now : Timestamp) (start : String)
    (context : Context) : Except WalkError Context × List Effect :=
  (Walk.start start context).finish executor cancelled now

end Switchyard
