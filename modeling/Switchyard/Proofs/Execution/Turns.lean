import Switchyard.Proofs.Execution.Disposition
import Switchyard.Proofs.Execution.Outcome
set_option autoImplicit false

/-! A walk turn by turn. A turn takes an id from the stack and executes its node to the end, however
many steps that takes; the steps of a walk are told apart only by where in a turn they fall. Main
statement: `standing_along`, wherever some steps have led a walk, turns have led there. -/
namespace Switchyard

structure Executed where
  given : Context
  record : TraceRecord

namespace Stage

def executes (executor : Executor) (stage : Stage) (moment : Timestamp × Bool) : List Executed :=
  let records :=
    (stage.advance executor moment.2 moment.1).2.filterMap Effect.record?
  match stage with
  | .between walk => records.map (Executed.mk walk.context)
  | .inside _ _ run => records.map (Executed.mk run.before)
  | .ended _ => []

/-- The nodes that some steps bring to their end, in that order. -/
def executedAlong (executor : Executor) (stage : Stage) :
    List (Timestamp × Bool) → List Executed
  | [] => []
  | moment :: later =>
    stage.executes executor moment ++
      executedAlong executor (stage.advance executor moment.2 moment.1).1 later

/-- What some steps do besides. -/
def effectsAlong (executor : Executor) (stage : Stage) : List (Timestamp × Bool) → List Effect
  | [] => []
  | moment :: later =>
    (stage.advance executor moment.2 moment.1).2 ++
      effectsAlong executor (stage.advance executor moment.2 moment.1).1 later

def current : Stage → List String
  | .inside _ id _ => [id]
  | .between _ | .ended _ => []

def waiting : Stage → List String
  | .between walk => walk.stack
  | .inside walk _ _ => walk.stack
  | .ended _ => []

section Along

variable (executor : Executor) (stage : Stage)

theorem map_record_executes (moment : Timestamp × Bool) :
    (stage.executes executor moment).map (·.record) =
      (stage.advance executor moment.2 moment.1).2.filterMap Effect.record? := by
  have unpack : ∀ (given : Context) (records : List TraceRecord),
      (records.map (Executed.mk given)).map (·.record) = records := fun given records => by
    rw [List.map_map]
    exact List.map_id _
  cases stage with
  | between walk => exact unpack _ _
  | inside walk id run => exact unpack _ _
  | ended result => rfl

theorem map_record_executedAlong (told : List (Timestamp × Bool)) :
    (stage.executedAlong executor told).map (·.record) =
      (stage.effectsAlong executor told).filterMap Effect.record? := by
  induction told generalizing stage with
  | nil => rfl
  | cons moment later ih =>
    rw [executedAlong, effectsAlong, List.map_append, List.filterMap_append,
      map_record_executes, ih]

theorem advanceAll_ended (result : Except WalkError Context) (told : List (Timestamp × Bool)) :
    (Stage.ended result).advanceAll executor told = .ended result := by
  induction told with
  | nil => rfl
  | cons moment later ih => exact ih

theorem ended_of_stepsLeft {told : List (Timestamp × Bool)}
    (enough : stage.stepsLeft executor.registry ≤ told.length) :
    ∃ result, stage.advanceAll executor told = .ended result := by
  induction told generalizing stage with
  | nil =>
    cases stage with
    | ended result => exact ⟨result, rfl⟩
    | between walk =>
      simp only [stepsLeft, List.length_nil] at enough
      omega
    | inside walk id run =>
      simp only [stepsLeft, List.length_nil] at enough
      omega
  | cons moment later ih =>
    rw [advanceAll_cons]
    by_cases ended : ∃ result, stage = .ended result
    · obtain ⟨result, rfl⟩ := ended
      exact ⟨result, advanceAll_ended executor result later⟩
    · have going : ∀ result, stage ≠ .ended result := fun result same => ended ⟨result, same⟩
      have nearer := stepsLeft_advance_lt executor moment.2 moment.1 stage going
      rw [List.length_cons] at enough
      exact ih _ (by omega)

theorem finish_eq_advance (cancelled : Bool) (now : Timestamp) :
    stage.finish executor cancelled now =
      let step := stage.advance executor cancelled now
      let rest := step.1.finish executor cancelled now
      (rest.1, step.2 ++ rest.2) := by
  cases stage with
  | ended result =>
    simp only [advance]
    rw [finish]
    rfl
  | between walk => rw [finish]
  | inside walk id run => rw [finish]

/-- Step by step a walk that is not cancelled does what it does at once, apart from times. -/
theorem effectsAlong_untimed (now : Timestamp) {told : List (Timestamp × Bool)}
    {result : Except WalkError Context} (uncancelled : ∀ moment ∈ told, moment.2 = false)
    (ended : stage.advanceAll executor told = .ended result) :
    (stage.effectsAlong executor told).map Effect.untimed =
      (stage.finish executor false now).2.map Effect.untimed := by
  induction told generalizing stage with
  | nil =>
    obtain rfl : stage = .ended result := ended
    rw [finish]
    rfl
  | cons moment later ih =>
    obtain ⟨time, cancelled⟩ := moment
    obtain ⟨rfl, others⟩ := List.forall_mem_cons.mp uncancelled
    have rest := ih _ others ended
    have alike := stage_finish_alike executor false now time (Eq.refl stage.untimed)
    have whole : (stage.finish executor false time).2 =
        (stage.advance executor false time).2 ++
          ((stage.advance executor false time).1.finish executor false time).2 :=
      congrArg Prod.snd (finish_eq_advance executor stage false time)
    have after := stage_finish_alike executor false now time
      (Eq.refl (stage.advance executor false time).1.untimed)
    rw [effectsAlong, alike.effects, whole, List.map_append, List.map_append, rest, after.effects]

end Along

end Stage

/-- The id on top of the stack has its turn: its node is executed in the context of the walk. -/
structure Turn (executor : Executor) (walk : Walk) (id : String) (rest : List String)
    (node : DecisionNode) (result : Except NodeError NodeOutcome) (executed : Executed) :
    Prop where
  next : walk.stack = id :: rest
  fresh : id ∉ walk.visited
  known : executor.registry.decision? id = some node
  ended : ∃ stopped, executor.outcome stopped node walk.context = result
  given : executed.given = walk.context
  recorded : ∃ startedAt now decision, executed.record =
    executor.recordOf node walk.context startedAt now decision result

section Reached

variable (executor : Executor) (start : String) (context : Context)

/-- Turns after which a walk stands between two nodes. -/
inductive Reached : List Executed → Walk → Prop
  | start : Reached [] ⟨[start], [], context⟩
  | turn {executed : List Executed} {walk : Walk} {id : String} {rest : List String}
      {node : DecisionNode} {outcome : NodeOutcome} {last : Executed}
      (before : Reached executed walk)
      (turn : Turn executor walk id rest node (.ok outcome) last) :
      Reached (executed ++ [last])
        ⟨outcome.next ++ rest, id :: walk.visited, outcome.context⟩

inductive Ended : List Executed → Except WalkError Context → Prop
  | atEnd {executed : List Executed} {walk : Walk}
      (before : Reached executor start context executed walk) (empty : walk.stack = []) :
      Ended executed (.ok walk.context)
  | stopped {executed : List Executed} {walk : Walk}
      (before : Reached executor start context executed walk) :
      Ended executed (.error .cancelled)
  | again {executed : List Executed} {walk : Walk} {id : String} {rest : List String}
      (before : Reached executor start context executed walk) (next : walk.stack = id :: rest)
      (seen : id ∈ walk.visited) : Ended executed (.error (.cycleDetected id))
  | missing {executed : List Executed} {walk : Walk} {id : String} {rest : List String}
      (before : Reached executor start context executed walk) (next : walk.stack = id :: rest)
      (unknown : executor.registry.decision? id = none) :
      Ended executed (.error (.missingNode id))
  | failed {executed : List Executed} {walk : Walk} {id : String} {rest : List String}
      {node : DecisionNode} {cause : NodeError} {last : Executed}
      (before : Reached executor start context executed walk)
      (turn : Turn executor walk id rest node (.error cause) last) :
      Ended (executed ++ [last]) (.error (WalkError.ofNode id cause))

/-- Turns have led to a stage; inside a node, to the moment before that node had its turn. -/
def Standing (executed : List Executed) : Stage → Prop
  | .between walk => Reached executor start context executed walk
  | .inside walk id run => ∃ visited, walk.visited = id :: visited ∧ id ∉ visited ∧
      executor.registry.decision? id = some run.node ∧
      (executor.enter run.node run.before).1 = .handedOut run.work ∧ Executor.Waits run ∧
      Reached executor start context executed ⟨id :: walk.stack, visited, run.before⟩
  | .ended result => Ended executor start context executed result

variable {executor start context}

/-- The walk goes on with what a turn has left, or it is over. -/
theorem standing_resume {executed : List Executed} {walk : Walk} {id : String}
    {rest : List String} {node : DecisionNode} {result : Except NodeError NodeOutcome}
    {last : Executed} (before : Reached executor start context executed walk)
    (turn : Turn executor walk id rest node result last) (left : Context) :
    Standing executor start context (executed ++ [last])
      (Walk.resume ⟨rest, id :: walk.visited, left⟩ id result) := by
  cases result with
  | ok outcome => exact .turn before turn
  | error cause => exact .failed before turn

/-- A node that waited ends its turn. -/
theorem standing_finish {executed : List Executed} {walk : Walk} {id : String} {run : NodeRun}
    (standing : Standing executor start context executed (.inside walk id run))
    (moment : Timestamp × Bool) :
    Standing executor start context
      (executed ++ (Stage.inside walk id run).executes executor moment)
      ((Stage.inside walk id run).advance executor moment.2 moment.1).1 := by
  obtain ⟨now, stopped⟩ := moment
  obtain ⟨stack, seen, left⟩ := walk
  obtain ⟨visited, rfl, fresh, known, handedOut, waits, before⟩ := standing
  obtain ⟨startedAt, endedAt, -, recorded⟩ :=
    (executor.finish_done stopped now waits).record
  have ended : executor.outcome stopped run.node run.before =
      (executor.finish stopped now run).1 :=
    (Executor.finish_outcome handedOut stopped now).symm
  have executes : (Stage.inside ⟨stack, id :: visited, left⟩ id run).executes executor
      (now, stopped) = [⟨run.before, executor.recordOf run.node run.before startedAt endedAt
        (executor.decision? run.node run.before) (executor.finish stopped now run).1⟩] :=
    congrArg (List.map (Executed.mk run.before)) recorded
  rw [executes]
  exact standing_resume before ⟨rfl, fresh, known, ⟨stopped, ended⟩, rfl, _, _, _, rfl⟩ left

theorem standing_visitNext {executed : List Executed} {walk : Walk}
    (before : Reached executor start context executed walk) (moment : Timestamp × Bool) :
    Standing executor start context (executed ++ (Stage.between walk).executes executor moment)
      ((Stage.between walk).advance executor moment.2 moment.1).1 := by
  obtain ⟨now, stopped⟩ := moment
  obtain ⟨stack, visited, given⟩ := walk
  simp only [Stage.executes, Stage.advance, Walk.visitNext]
  cases stack with
  | nil =>
    rw [List.filterMap_nil, List.map_nil, List.append_nil]
    exact Ended.atEnd before rfl
  | cons id rest =>
    dsimp only
    split
    · rw [List.filterMap_nil, List.map_nil, List.append_nil]
      exact Ended.stopped before
    · split
      · rename_i seen
        have none : [Effect.warned (.cycleMet given.correlationId id)].filterMap
            Effect.record? = [] := rfl
        rw [none, List.map_nil, List.append_nil]
        exact Ended.again before rfl (List.contains_iff_mem.mp seen)
      · rename_i unseen
        have fresh : id ∉ visited := fun inside => unseen (List.contains_iff_mem.mpr inside)
        split
        · rename_i unknown
          rw [List.filterMap_nil, List.map_nil, List.append_nil]
          exact Ended.missing before rfl unknown
        · rename_i node known
          have spec := executor.begin_spec false now node given
          have came := executor.begin_outcome false now node given
          generalize executor.begin false now node given = began at spec came ⊢
          obtain ⟨result | run, effects⟩ := began
          · obtain ⟨startedAt, endedAt, -, recorded⟩ := spec.record
            dsimp only at came ⊢
            rw [recorded]
            exact standing_resume before
              ⟨rfl, fresh, known, ⟨false, came.symm⟩, rfl, _, _, _, rfl⟩ given
          · obtain ⟨quiet, rfl, rfl, waits⟩ := spec
            obtain ⟨-, -, handedOut⟩ := came
            dsimp only
            rw [Effect.filterMap_record?_of_quiet quiet, List.map_nil, List.append_nil]
            exact ⟨visited, rfl, fresh, known, handedOut, waits, before⟩

theorem standing_advance {executed : List Executed} {stage : Stage}
    (standing : Standing executor start context executed stage) (moment : Timestamp × Bool) :
    Standing executor start context (executed ++ stage.executes executor moment)
      (stage.advance executor moment.2 moment.1).1 := by
  cases stage with
  | between walk => exact standing_visitNext standing moment
  | inside walk id run => exact standing_finish standing moment
  | ended result =>
    have nothing : (Stage.ended result).executes executor moment = [] := rfl
    rw [nothing, List.append_nil]
    exact standing

theorem standing_advanceAll {executed : List Executed} {stage : Stage}
    (standing : Standing executor start context executed stage)
    (told : List (Timestamp × Bool)) :
    Standing executor start context (executed ++ stage.executedAlong executor told)
      (stage.advanceAll executor told) := by
  induction told generalizing executed stage with
  | nil =>
    rw [Stage.executedAlong, List.append_nil]
    exact standing
  | cons moment later ih =>
    rw [Stage.executedAlong, Stage.advanceAll_cons, ← List.append_assoc]
    exact ih (standing_advance standing moment)

theorem Reached.had_turn {executed : List Executed} {walk : Walk}
    (reached : Reached executor start context executed walk) :
    ∀ one ∈ executed, ∃ walk id rest node result, Turn executor walk id rest node result one := by
  induction reached with
  | start => exact fun one inside => (List.not_mem_nil inside).elim
  | turn before turn ih =>
    exact List.forall_mem_append.mpr
      ⟨ih, List.forall_mem_singleton.mpr ⟨_, _, _, _, _, turn⟩⟩

theorem Standing.had_turn {executed : List Executed} {stage : Stage}
    (standing : Standing executor start context executed stage) :
    ∀ one ∈ executed, ∃ walk id rest node result, Turn executor walk id rest node result one := by
  cases stage with
  | between walk => exact Reached.had_turn standing
  | inside walk id run =>
    obtain ⟨visited, -, -, -, -, -, before⟩ := standing
    exact before.had_turn
  | ended result =>
    cases standing with
    | atEnd before _ => exact before.had_turn
    | stopped before => exact before.had_turn
    | again before _ _ => exact before.had_turn
    | missing before _ _ => exact before.had_turn
    | failed before turn =>
      exact List.forall_mem_append.mpr
        ⟨before.had_turn, List.forall_mem_singleton.mpr ⟨_, _, _, _, _, turn⟩⟩

theorem Ended.reached {executed : List Executed} {result : Except WalkError Context}
    (ended : Ended executor start context executed result) {after : Context}
    (ok : result = .ok after) :
    ∃ walk, Reached executor start context executed walk ∧ walk.context = after := by
  cases ended with
  | atEnd before _ => exact ⟨_, before, Except.ok.inj ok⟩
  | stopped _ | again _ _ _ | missing _ _ _ | failed _ _ => cases ok

variable (executor start context)

/-- Wherever some steps have led a walk, turns have led there. -/
theorem standing_along (told : List (Timestamp × Bool)) :
    Standing executor start context ((Walk.start start context).executedAlong executor told)
      ((Walk.start start context).advanceAll executor told) := by
  have begins : Standing executor start context [] (Walk.start start context) := Reached.start
  exact standing_advanceAll begins told

end Reached

end Switchyard
