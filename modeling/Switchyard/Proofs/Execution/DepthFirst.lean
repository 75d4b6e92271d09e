import Switchyard.Proofs.Execution.Walk
set_option autoImplicit false

/-! Walking with a stack is walking by recursion: a node is visited, and after it, one after another
and each with everything below it, the nodes that it goes on to. -/
namespace Switchyard.DepthFirst

/-- How far a part of the recursion has come. What has been visited only grows, which is why the
recursion ends. -/
structure Progress (registry : Registry) (before : List String) where
  visited : List String
  context : Context
  grown : Stage.unvisited registry visited ≤ Stage.unvisited registry before

/-- Progress since an earlier moment. -/
def Progress.since {registry : Registry} {before earlier : List String}
    (grown : Stage.unvisited registry before ≤ Stage.unvisited registry earlier)
    (progress : Progress registry before) : Progress registry earlier :=
  ⟨progress.visited, progress.context, Nat.le_trans progress.grown grown⟩

/-- What a part of the recursion comes to, and the nodes that it executes, each with the context
that it is given. -/
structure Tour (registry : Registry) (before : List String) where
  result : Except WalkError (Progress registry before)
  executed : List (DecisionNode × Context)

theorem unvisited_lt {registry : Registry} {id : String} {node : DecisionNode}
    {visited : List String} (fresh : ¬visited.contains id = true)
    (known : registry.decision? id = some node) :
    Stage.unvisited registry (id :: visited) < Stage.unvisited registry visited := by
  refine Stage.unvisited_cons_lt (Bool.eq_false_iff.mpr fresh) ?_
  rw [Dict.mem_keys_iff, Dict.contains_iff]
  exact ⟨node, known⟩

mutual

/-- Visits a node and everything below it. -/
def visit (registry : Registry) (execute : DecisionNode → Context → Except NodeError NodeOutcome)
    (id : String) (visited : List String) (context : Context) : Tour registry visited :=
  if seen : visited.contains id then ⟨.error (.cycleDetected id), []⟩
  else match known : registry.decision? id with
    | none => ⟨.error (.missingNode id), []⟩
    | some node =>
      match execute node context with
      | .error cause => ⟨.error (.nodeFailed id cause), [(node, context)]⟩
      | .ok outcome =>
        let below := visitAll registry execute outcome.next (id :: visited) outcome.context
        ⟨below.result.map (Progress.since (Nat.le_of_lt (unvisited_lt seen known))),
          (node, context) :: below.executed⟩
termination_by (Stage.unvisited registry visited, 0)
decreasing_by exact Prod.Lex.left _ _ (unvisited_lt seen known)

/-- Visits nodes one after another, each with what the one before it has left. -/
def visitAll (registry : Registry) (execute : DecisionNode → Context → Except NodeError NodeOutcome)
    (ids : List String) (visited : List String) (context : Context) : Tour registry visited :=
  match ids with
  | [] => ⟨.ok ⟨visited, context, Nat.le_refl _⟩, []⟩
  | id :: rest =>
    let first := visit registry execute id visited context
    match first.result with
    | .error error => ⟨.error error, first.executed⟩
    | .ok progress =>
      let others := visitAll registry execute rest progress.visited progress.context
      ⟨others.result.map (Progress.since progress.grown), first.executed ++ others.executed⟩
termination_by (Stage.unvisited registry visited, ids.length + 1)
decreasing_by
  · exact Prod.Lex.right _ (Nat.succ_pos _)
  · rcases Nat.lt_or_eq_of_le progress.grown with fewer | same
    · exact Prod.Lex.left _ _ fewer
    · rw [same]
      exact Prod.Lex.right _ (Nat.lt_succ_self _)

end

def walk (registry : Registry) (execute : DecisionNode → Context → Except NodeError NodeOutcome)
    (start : String) (context : Context) :
    Except WalkError Context × List (DecisionNode × Context) :=
  let tour := visit registry execute start [] context
  (tour.result.map (·.context), tour.executed)

/-! The recursion in equations; where it has come to no longer matters for why it ends. -/

def Tour.outcome {registry : Registry} {before : List String} (tour : Tour registry before) :
    Except WalkError (List String × Context) :=
  tour.result.map fun progress => (progress.visited, progress.context)

theorem outcome_since {registry : Registry} {before earlier : List String}
    (result : Except WalkError (Progress registry before))
    (grown : Stage.unvisited registry before ≤ Stage.unvisited registry earlier)
    (executed : List (DecisionNode × Context)) :
    (Tour.mk (result.map (Progress.since grown)) executed).outcome =
      (Tour.mk result executed).outcome := by
  cases result <;> rfl

section Equations

variable {registry : Registry} {execute : DecisionNode → Context → Except NodeError NodeOutcome}
  {id : String} {visited : List String} {context : Context}

theorem visit_seen (seen : visited.contains id = true) :
    visit registry execute id visited context = ⟨.error (.cycleDetected id), []⟩ := by
  rw [visit, dif_pos seen]

theorem visit_missing (fresh : ¬visited.contains id = true)
    (unknown : registry.decision? id = none) :
    visit registry execute id visited context = ⟨.error (.missingNode id), []⟩ := by
  rw [visit, dif_neg fresh]
  split
  · rfl
  · rename_i known
    rw [unknown] at known
    cases known

theorem visit_failed (fresh : ¬visited.contains id = true) {node : DecisionNode}
    (known : registry.decision? id = some node) {cause : NodeError}
    (failed : execute node context = .error cause) :
    visit registry execute id visited context =
      ⟨.error (.nodeFailed id cause), [(node, context)]⟩ := by
  rw [visit, dif_neg fresh]
  split
  · rename_i unknown
    rw [known] at unknown
    cases unknown
  · rename_i found
    obtain rfl := Option.some.inj (known.symm.trans found)
    rw [failed]

theorem visit_done (fresh : ¬visited.contains id = true) {node : DecisionNode}
    (known : registry.decision? id = some node) {outcome : NodeOutcome}
    (done : execute node context = .ok outcome) :
    let below := visitAll registry execute outcome.next (id :: visited) outcome.context
    (visit registry execute id visited context).outcome = below.outcome ∧
      (visit registry execute id visited context).executed = (node, context) :: below.executed := by
  intro below
  rw [visit, dif_neg fresh]
  split
  · rename_i unknown
    rw [known] at unknown
    cases unknown
  · rename_i found
    obtain rfl := Option.some.inj (known.symm.trans found)
    rw [done]
    exact ⟨outcome_since _ _ _, rfl⟩

theorem visitAll_nil (registry : Registry)
    (execute : DecisionNode → Context → Except NodeError NodeOutcome) (visited : List String)
    (context : Context) :
    (visitAll registry execute [] visited context).outcome = .ok (visited, context) ∧
      (visitAll registry execute [] visited context).executed = [] := by
  rw [visitAll]
  exact ⟨rfl, rfl⟩

theorem visitAll_cons_error (rest : List String) {error : WalkError}
    (failed : (visit registry execute id visited context).result = .error error) :
    (visitAll registry execute (id :: rest) visited context).outcome = .error error ∧
      (visitAll registry execute (id :: rest) visited context).executed =
        (visit registry execute id visited context).executed := by
  rw [visitAll]
  dsimp only
  split
  · rename_i other same
    rw [failed] at same
    obtain rfl := Except.error.inj same
    exact ⟨rfl, rfl⟩
  · rename_i progress same
    rw [failed] at same
    cases same

theorem visitAll_cons_ok (rest : List String) {progress : Progress registry visited}
    (done : (visit registry execute id visited context).result = .ok progress) :
    let others := visitAll registry execute rest progress.visited progress.context
    (visitAll registry execute (id :: rest) visited context).outcome = others.outcome ∧
      (visitAll registry execute (id :: rest) visited context).executed =
        (visit registry execute id visited context).executed ++ others.executed := by
  intro others
  rw [visitAll]
  dsimp only
  split
  · rename_i error same
    rw [done] at same
    cases same
  · rename_i other same
    rw [done] at same
    obtain rfl := Except.ok.inj same
    exact ⟨outcome_since _ _ _, rfl⟩

end Equations

/-! The stack, one node at a time. -/

/-- How a node ends when nothing is cancelled. -/
def nodeResult (executor : Executor) (now : Timestamp) (node : DecisionNode) (context : Context) :
    Except NodeError NodeOutcome :=
  (executor.execute false now node context).1

theorem nodeResult_ne_cancelled (executor : Executor) (now : Timestamp) (node : DecisionNode)
    (context : Context) : nodeResult executor now node context ≠ .error .cancelled := by
  have answered : ∀ work, (executor.answer work).1 ≠ .error .cancelled := by
    intro work
    unfold Executor.answer
    cases work <;> dsimp only <;> repeat' split
    all_goals exact fun same => by cases same
  have closed : ∀ work startedAt result, result ≠ .error NodeError.cancelled →
      (Executor.close work startedAt now result).1 ≠ .error .cancelled := by
    intro work startedAt result goes
    cases work <;> cases result <;> simp_all [Executor.close, Except.map]
  have finished : ∀ run, (executor.finish false now run).1 ≠ .error .cancelled := by
    intro run
    have settled := closed run.work run.startedAt _ (answered run.work)
    change (Executor.close run.work run.startedAt now (executor.answer run.work).1).1.map
      (Executor.proceed run.node) ≠ .error .cancelled
    cases found : (Executor.close run.work run.startedAt now (executor.answer run.work).1).1 with
    | ok after => exact fun same => by cases same
    | error cause =>
      rw [found] at settled
      exact fun same => settled (congrArg Except.error (Except.error.inj same))
  unfold nodeResult Executor.execute
  obtain ⟨quiet, -, ⟨outcome, decision, -, began⟩ | ⟨work, -, ended | waits⟩⟩ :=
    executor.begin_cases false now node context
  · rw [began]
    exact fun same => by cases same
  · rw [ended]
    exact finished _
  · rw [waits]
    exact finished _

theorem finish_resume (executor : Executor) (now : Timestamp) (walk : Walk) (id : String)
    (result : Except NodeError NodeOutcome) (possible : result ≠ .error .cancelled) :
    (walk.resume id result).finish executor false now =
      match result with
      | .error cause => (.error (.nodeFailed id cause), [])
      | .ok outcome => (Stage.between ⟨outcome.next ++ walk.stack, walk.visited,
          outcome.context⟩).finish executor false now := by
  cases result with
  | ok outcome => rfl
  | error cause =>
    rw [Walk.resume, Stage.finish]
    cases cause with
    | cancelled => exact absurd rfl possible
    | _ => rfl

theorem finish_between_cons (executor : Executor) (now : Timestamp) {id : String}
    (rest : List String) {visited : List String} (context : Context) {node : DecisionNode}
    (fresh : ¬visited.contains id = true)
    (known : executor.registry.decision? id = some node) :
    (Stage.between ⟨id :: rest, visited, context⟩).finish executor false now =
      match executor.execute false now node context with
      | (.error cause, effects) => (.error (.nodeFailed id cause), effects)
      | (.ok outcome, effects) =>
        let later := (Stage.between ⟨outcome.next ++ rest, id :: visited,
          outcome.context⟩).finish executor false now
        (later.1, effects ++ later.2) := by
  have possible := nodeResult_ne_cancelled executor now node context
  rw [Stage.finish]
  simp only [Stage.advance, Walk.visitNext, Bool.false_eq_true, if_false, if_neg fresh, known]
  unfold nodeResult at possible
  unfold Executor.execute at possible ⊢
  generalize executor.begin false now node context = began at possible ⊢
  obtain ⟨result | run, effects⟩ := began
  · dsimp only at possible ⊢
    rw [finish_resume executor now _ id result possible]
    cases result <;> simp
  · dsimp only at possible ⊢
    rw [Stage.finish]
    simp only [Stage.advance]
    generalize executor.finish false now run = ended at possible ⊢
    obtain ⟨result, ending⟩ := ended
    dsimp only at possible ⊢
    rw [finish_resume executor now _ id result possible]
    cases result <;> simp

/-- What executing some nodes does, each in the context that it is given. -/
def effectsOf (executor : Executor) (now : Timestamp) (executed : List (DecisionNode × Context)) :
    List Effect :=
  executed.flatMap fun entry => (executor.execute false now entry.1 entry.2).2

/-- A walk that comes back to a node says so. -/
def cycleWarnings (correlationId : String) : WalkError → List Effect
  | .cycleDetected id => [.warned (.cycleMet correlationId id)]
  | .missingNode _ | .nodeFailed .. | .cancelled => []

def continued (executor : Executor) (now : Timestamp) (correlationId : String)
    (outcome : Except WalkError (List String × Context))
    (executed : List (DecisionNode × Context)) (rest : List String) :
    Except WalkError Context × List Effect :=
  match outcome with
  | .error error =>
    (.error error, effectsOf executor now executed ++ cycleWarnings correlationId error)
  | .ok (visited, context) =>
    let later := (Stage.between ⟨rest, visited, context⟩).finish executor false now
    (later.1, effectsOf executor now executed ++ later.2)

theorem continued_append (executor : Executor) (now : Timestamp) (correlationId : String)
    (outcome : Except WalkError (List String × Context))
    (first executed : List (DecisionNode × Context)) (rest : List String) :
    continued executor now correlationId outcome (first ++ executed) rest =
      let later := continued executor now correlationId outcome executed rest
      (later.1, effectsOf executor now first ++ later.2) := by
  cases outcome <;> simp [continued, effectsOf]

/-- The stack with some ids on top comes to what a part of the recursion comes to, and then goes on
with what lies below. -/
def Simulates (executor : Executor) (now : Timestamp) (ids visited : List String)
    (context : Context) (outcome : Except WalkError (List String × Context))
    (executed : List (DecisionNode × Context)) : Prop :=
  (∀ visited' after, outcome = .ok (visited', after) →
    after.correlationId = context.correlationId) ∧
  ∀ rest, (Stage.between ⟨ids ++ rest, visited, context⟩).finish executor false now =
    continued executor now context.correlationId outcome executed rest

section Simulation

variable (executor : Executor) (now : Timestamp)

/-- The visit of one node, given what the nodes it goes on to come to. -/
theorem simulates_done {id : String} {visited : List String} {context : Context}
    {node : DecisionNode} {outcome : NodeOutcome}
    {below : Except WalkError (List String × Context)} {executed : List (DecisionNode × Context)}
    (fresh : ¬visited.contains id = true) (known : executor.registry.decision? id = some node)
    (done : nodeResult executor now node context = .ok outcome)
    (after : Simulates executor now outcome.next (id :: visited) outcome.context below executed) :
    Simulates executor now [id] visited context below ((node, context) :: executed) := by
  obtain ⟨sameId, goesOn⟩ := after
  have kept : outcome.context.correlationId = context.correlationId :=
    (executor.execute_done false now node context).sameId outcome done
  refine ⟨fun visited' after ok => (sameId visited' after ok).trans kept, fun rest => ?_⟩
  have step := finish_between_cons executor now rest context fresh known
  have first : effectsOf executor now [(node, context)] =
      (executor.execute false now node context).2 := by
    simp [effectsOf]
  unfold nodeResult at done
  generalize executor.execute false now node context = ran at done step first
  obtain ⟨result, effects⟩ := ran
  obtain rfl : result = .ok outcome := done
  rw [List.singleton_append, step]
  change _ = continued executor now context.correlationId below
    ([(node, context)] ++ executed) rest
  rw [continued_append, first, ← kept, ← goesOn rest]

theorem simulates_failed {id : String} {visited : List String} {context : Context}
    {node : DecisionNode} {cause : NodeError} (fresh : ¬visited.contains id = true)
    (known : executor.registry.decision? id = some node)
    (failed : nodeResult executor now node context = .error cause) :
    Simulates executor now [id] visited context (.error (.nodeFailed id cause))
      [(node, context)] := by
  refine ⟨fun visited' after ok => (by cases ok), fun rest => ?_⟩
  have step := finish_between_cons executor now rest context fresh known
  have first : effectsOf executor now [(node, context)] =
      (executor.execute false now node context).2 := by
    simp [effectsOf]
  unfold nodeResult at failed
  generalize executor.execute false now node context = ran at failed step first
  obtain ⟨result, effects⟩ := ran
  obtain rfl : result = .error cause := failed
  rw [List.singleton_append, step]
  simp only [continued, cycleWarnings, List.append_nil, first]

/-- The induction follows the recursion; the stack below is arbitrary. -/
theorem simulates :
    (∀ id visited context,
      let tour := visit executor.registry (nodeResult executor now) id visited context
      Simulates executor now [id] visited context tour.outcome tour.executed) ∧
    ∀ ids visited context,
      let tour := visitAll executor.registry (nodeResult executor now) ids visited context
      Simulates executor now ids visited context tour.outcome tour.executed := by
  -- The cases are those of the recursion: seen, missing, failed and done, then the list of ids.
  apply visit.mutual_induct
  case case1 =>
    intro id visited context seen tour
    have equation : tour = _ := visit_seen seen
    rw [equation]
    refine ⟨fun visited' after ok => (by cases ok), fun rest => ?_⟩
    rw [Stage.finish]
    simp only [Stage.advance, Walk.visitNext, List.singleton_append, Bool.false_eq_true, if_false,
      if_pos seen]
    rw [Stage.finish]
    rfl
  case case2 =>
    intro id visited context fresh unknown tour
    have equation : tour = _ := visit_missing fresh unknown
    rw [equation]
    refine ⟨fun visited' after ok => (by cases ok), fun rest => ?_⟩
    rw [Stage.finish]
    simp only [Stage.advance, Walk.visitNext, List.singleton_append, Bool.false_eq_true, if_false,
      if_neg fresh, unknown]
    rw [Stage.finish]
    rfl
  case case3 =>
    intro id visited context fresh node known cause failed tour
    have equation : tour = _ := visit_failed fresh known failed
    rw [equation]
    exact simulates_failed executor now fresh known failed
  case case4 =>
    intro id visited context fresh node known outcome done after tour
    obtain ⟨sameOutcome, sameExecuted⟩ := visit_done fresh known done
    rw [show tour.outcome = _ from sameOutcome, show tour.executed = _ from sameExecuted]
    exact simulates_done executor now fresh known done after
  case case5 =>
    intro visited context tour
    obtain ⟨sameOutcome, sameExecuted⟩ :=
      visitAll_nil executor.registry (nodeResult executor now) visited context
    rw [show tour.outcome = _ from sameOutcome, show tour.executed = _ from sameExecuted]
    refine ⟨fun visited' after ok => ?_, fun rest => rfl⟩
    obtain ⟨-, rfl⟩ := Prod.mk.inj (Except.ok.inj ok)
    rfl
  case case6 =>
    intro visited context id rest first error failed visited_first tour
    obtain ⟨sameOutcome, sameExecuted⟩ := visitAll_cons_error rest failed
    rw [show tour.outcome = _ from sameOutcome, show tour.executed = _ from sameExecuted]
    refine ⟨fun visited' after ok => (by cases ok), fun more => ?_⟩
    have goesOn := visited_first.2 (rest ++ more)
    rw [Tour.outcome, failed] at goesOn
    exact goesOn
  case case7 =>
    intro visited context id rest first progress done visited_first visited_rest tour
    obtain ⟨sameOutcome, sameExecuted⟩ := visitAll_cons_ok rest done
    rw [show tour.outcome = _ from sameOutcome, show tour.executed = _ from sameExecuted]
    obtain ⟨firstSame, firstGoesOn⟩ := visited_first
    obtain ⟨restSame, restGoesOn⟩ := visited_rest
    have reached : (visit executor.registry (nodeResult executor now) id visited context).outcome =
        .ok (progress.visited, progress.context) := by
      rw [Tour.outcome, done]
      rfl
    have kept : progress.context.correlationId = context.correlationId :=
      firstSame progress.visited progress.context reached
    refine ⟨fun visited' after ok => (restSame visited' after ok).trans kept, fun more => ?_⟩
    have goesOn := firstGoesOn (rest ++ more)
    rw [reached] at goesOn
    rw [continued_append, ← kept, ← restGoesOn more]
    exact goesOn

end Simulation

theorem recordedNodes_effectsOf (executor : Executor) (now : Timestamp)
    (executed : List (DecisionNode × Context)) :
    ((effectsOf executor now executed).filterMap Effect.record?).map (·.nodeId) =
      executed.map (·.1.id) := by
  unfold effectsOf
  induction executed with
  | nil => rfl
  | cons entry rest ih =>
    obtain ⟨startedAt, ended, -, record⟩ :=
      (executor.execute_done false now entry.1 entry.2).record
    rw [List.flatMap_cons, List.filterMap_append, List.map_append, ih, record]
    rfl

theorem filterMap_record?_cycleWarnings (correlationId : String) (error : WalkError) :
    (cycleWarnings correlationId error).filterMap Effect.record? = [] := by
  cases error <;> rfl

/-- A walk that is never cancelled ends as the recursion ends, executes the same nodes in the same
order, and does on the way just what executing them does, each in the context that the recursion
gives it; only a walk that comes back to a node adds a warning of that. -/
theorem walk_eq_depthFirst (executor : Executor) (now : Timestamp) (start : String)
    (context : Context) :
    let walked := executor.walk false now start context
    let recursion := walk executor.registry (nodeResult executor now) start context
    walked.1 = recursion.1 ∧
    (walked.2.filterMap Effect.record?).map (·.nodeId) = recursion.2.map (·.1.id) ∧
    walked.2 = effectsOf executor now recursion.2 ++
      match recursion.1 with
      | .error error => cycleWarnings context.correlationId error
      | .ok _ => [] := by
  intro walked recursion
  have goesOn := ((simulates executor now).1 start [] context).2 []
  have same : walked = continued executor now context.correlationId
      (visit executor.registry (nodeResult executor now) start [] context).outcome
      recursion.2 [] := goesOn
  cases result : (visit executor.registry (nodeResult executor now) start [] context).result with
  | error error =>
    have ended : recursion.1 = .error error := congrArg (Except.map Progress.context) result
    rw [Tour.outcome, result] at same
    rw [ended, same]
    refine ⟨rfl, ?_, rfl⟩
    simp only [continued, Except.map, List.filterMap_append, filterMap_record?_cycleWarnings,
      List.append_nil]
    exact recordedNodes_effectsOf executor now recursion.2
  | ok progress =>
    have ended : recursion.1 = .ok progress.context := congrArg (Except.map Progress.context) result
    have atEnd : (Stage.between ⟨[], progress.visited, progress.context⟩).finish executor false
        now = (.ok progress.context, []) := by
      rw [Stage.finish]
      simp only [Stage.advance, Walk.visitNext]
      rw [Stage.finish]
      rfl
    rw [Tour.outcome, result] at same
    rw [ended, same]
    simp only [continued, Except.map, atEnd, List.append_nil]
    exact ⟨trivial, recordedNodes_effectsOf executor now recursion.2, trivial⟩

end Switchyard.DepthFirst
