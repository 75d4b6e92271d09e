import Mathlib.Data.List.Nodup
import Switchyard.Proofs.Execution.Walk
import Switchyard.Proofs.Registry.Accepted
set_option autoImplicit false

/-! The trace of a walk certifies it: whoever follows the records on a stack of their own sees every
node come up in its turn, and at the end knows how the walk ended. -/
namespace Switchyard

/-- Follows records on a stack: each one must be of the node on top, and puts there the nodes that
it says the walk goes on to. -/
def replay : List TraceRecord → List String → Option (List String)
  | [], stack => some stack
  | _ :: _, [] => none
  | record :: rest, id :: stack =>
    if record.nodeId = id then replay rest (record.nextNodes ++ stack) else none

theorem replay_append (first later : List TraceRecord) (stack : List String) :
    replay (first ++ later) stack = (replay first stack).bind (replay later) := by
  induction first generalizing stack with
  | nil => rfl
  | cons record rest ih =>
    cases stack with
    | nil => rfl
    | cons id stack =>
      simp only [List.cons_append, replay]
      split
      · exact ih _
      · rfl

theorem replay_concat {records : List TraceRecord} {record : TraceRecord} {id : String}
    {start rest : List String} (replayed : replay records start = some (id :: rest))
    (same : record.nodeId = id) :
    replay (records ++ [record]) start = some (record.nextNodes ++ rest) := by
  rw [replay_append, replayed]
  simp [replay, same]

/-- A record tells the kind of its node. It tells of a decision exactly if that is a condition, and
then the way on is the one that the decision stands for. -/
structure TraceRecord.TrueTo (registry : Registry) (record : TraceRecord) : Prop where
  kind_eq : ∃ node, registry.decision? record.nodeId = some node ∧
    record.nodeKind = node.behavior.kind
  branch : record.nodeKind = .condition →
    ∃ node predicate whenTrue whenFalse made, registry.decision? record.nodeId = some node ∧
      node.behavior = .condition predicate whenTrue whenFalse ∧ record.decision = some made ∧
      record.nextNodes = (if made.result then whenTrue else whenFalse).toList
  decides_iff : record.decision.isSome = true ↔ record.nodeKind = .condition

/-- What the records of a walk say about its result, once the replay has come to a stack. -/
structure Certifies (registry : Registry) (records : List TraceRecord) (stack : List String)
    (result : Except WalkError Context) : Prop where
  replays : replay records [registry.root] = some stack
  earlierClean : ∀ record ∈ records.dropLast, record.errors = []
  truthful : ∀ record ∈ records, record.TrueTo registry
  ok_iff : (∃ context, result = .ok context) ↔
    stack = [] ∧ ∀ record ∈ records, record.errors = []
  failed : ∀ id cause, result = .error (.nodeFailed id cause) →
    ∃ last, records.getLast? = some last ∧ last.nodeId = id ∧ last.errors = [cause.message] ∧
      last.nextNodes = []
  cycle : ∀ id, result = .error (.cycleDetected id) →
    (∀ record ∈ records, record.errors = []) ∧ stack.head? = some id ∧
      records.countP (fun record => record.nodeId = id) = 1

/-- The records of a walk that has not ended: the replay has come to the stack of the walk, and
every visited node has one record without errors. -/
structure OnTrack (registry : Registry) (records : List TraceRecord)
    (stack visited : List String) : Prop where
  replays : replay records [registry.root] = some stack
  clean : ∀ record ∈ records, record.errors = []
  truthful : ∀ record ∈ records, record.TrueTo registry
  visited_eq : visited = (records.map (·.nodeId)).reverse
  once : visited.Nodup

/-- The records fit how far the walk has come. -/
def Stage.Fits (registry : Registry) (records : List TraceRecord) : Stage → Prop
  | .between walk => OnTrack registry records walk.stack walk.visited
  | .inside walk id run => ∃ visited, walk.visited = id :: visited ∧ id ∉ visited ∧
      registry.decision? id = some run.node ∧ Executor.Waits run ∧
      OnTrack registry records (id :: walk.stack) visited
  | .ended result => ∃ stack, Certifies registry records stack result

theorem fits_start (registry : Registry) (context : Context) :
    (Walk.start registry.root context).Fits registry [] :=
  { replays := rfl
    clean := fun _ inside => (List.not_mem_nil inside).elim
    truthful := fun _ inside => (List.not_mem_nil inside).elim
    visited_eq := rfl
    once := List.nodup_nil }

section Done

variable {executor : Executor} {records : List TraceRecord} {stack visited : List String}

theorem OnTrack.certifies_ok {registry : Registry} (track : OnTrack registry records stack visited)
    (empty : stack = []) (context : Context) : Certifies registry records stack (.ok context) where
  replays := track.replays
  earlierClean := fun record inside => track.clean record (List.dropLast_subset records inside)
  truthful := track.truthful
  ok_iff := ⟨fun _ => ⟨empty, track.clean⟩, fun _ => ⟨context, rfl⟩⟩
  failed := fun id cause failed => by cases failed
  cycle := fun id cyclic => by cases cyclic

theorem OnTrack.certifies_error {registry : Registry} {next : String} {rest : List String}
    (track : OnTrack registry records (next :: rest) visited) {error : WalkError}
    (notFailed : ∀ id cause, error ≠ .nodeFailed id cause)
    (cycle : ∀ id, error = .cycleDetected id → id = next ∧ next ∈ visited) :
    Certifies registry records (next :: rest) (.error error) := by
  refine ⟨track.replays, ?_, track.truthful, ?_, ?_, ?_⟩
  · intro record inside
    exact track.clean record (List.dropLast_subset records inside)
  · constructor
    · rintro ⟨context, impossible⟩
      cases impossible
    · rintro ⟨impossible, -⟩
      cases impossible
  · intro id cause failed
    exact absurd (Except.error.inj failed) (notFailed id cause)
  · intro id cyclic
    obtain ⟨rfl, seen⟩ := cycle id (Except.error.inj cyclic)
    refine ⟨track.clean, rfl, ?_⟩
    -- The visited ids are those of the records, and no id is visited twice.
    have counted : (records.map (·.nodeId)).count id = 1 := by
      rw [← List.count_reverse, ← track.visited_eq]
      exact List.count_eq_one_of_mem track.once seen
    rw [List.count, List.countP_map] at counted
    rw [← counted]
    apply List.countP_congr
    intro record inside
    simp

theorem OnTrack.concat {registry : Registry} {id : String} {rest : List String}
    (track : OnTrack registry records (id :: rest) visited) (fresh : id ∉ visited)
    {record : TraceRecord} (sameId : record.nodeId = id) (trueTo : record.TrueTo registry)
    (clean : record.errors = []) :
    OnTrack registry (records ++ [record]) (record.nextNodes ++ rest) (id :: visited) where
  replays := replay_concat track.replays sameId
  clean := List.forall_mem_append.mpr ⟨track.clean, List.forall_mem_singleton.mpr clean⟩
  truthful := List.forall_mem_append.mpr ⟨track.truthful, List.forall_mem_singleton.mpr trueTo⟩
  visited_eq := by
    rw [track.visited_eq, List.map_append, List.reverse_append, ← sameId]
    rfl
  once := List.nodup_cons.mpr ⟨fresh, track.once⟩

theorem OnTrack.certifies_failed {registry : Registry} {id : String} {rest : List String}
    (track : OnTrack registry records (id :: rest) visited) {record : TraceRecord}
    (sameId : record.nodeId = id) (trueTo : record.TrueTo registry) {cause : NodeError}
    (errors : record.errors = [cause.message]) (noNext : record.nextNodes = []) :
    Certifies registry (records ++ [record]) rest (.error (WalkError.ofNode id cause)) := by
  have replays := replay_concat track.replays sameId
  rw [noNext, List.nil_append] at replays
  refine ⟨replays, ?_, ?_, ?_, ?_, ?_⟩
  · rw [List.dropLast_concat]
    exact track.clean
  · exact List.forall_mem_append.mpr ⟨track.truthful, List.forall_mem_singleton.mpr trueTo⟩
  · constructor
    · rintro ⟨context, impossible⟩
      cases impossible
    · rintro ⟨-, clean⟩
      have noErrors := clean record (List.mem_append_right _ (List.mem_singleton_self _))
      rw [errors] at noErrors
      cases noErrors
  · intro failedId failedCause failed
    have same : WalkError.ofNode id cause = .nodeFailed failedId failedCause :=
      Except.error.inj failed
    refine ⟨record, List.getLast?_concat, ?_⟩
    cases cause with
    | cancelled => cases same
    | _ =>
      cases same
      exact ⟨sameId, errors, noNext⟩
  · intro cyclicId cyclic
    have same : WalkError.ofNode id cause = .cycleDetected cyclicId := Except.error.inj cyclic
    cases cause <;> cases same

theorem trueTo_of_decides {registry : Registry} {node : DecisionNode} {record : TraceRecord}
    {result : Except NodeError NodeOutcome} (known : registry.decision? record.nodeId = some node)
    (kind : record.nodeKind = node.behavior.kind)
    (decides : Executor.Decides node.behavior record.decision result)
    (next : ∀ outcome, result = .ok outcome → record.nextNodes = outcome.next) :
    record.TrueTo registry := by
  have kind_eq : ∃ node, registry.decision? record.nodeId = some node ∧
      record.nodeKind = node.behavior.kind := ⟨node, known, kind⟩
  unfold Executor.Decides at decides
  cases behavior : node.behavior with
  | condition predicate whenTrue whenFalse =>
    rw [behavior] at kind decides
    obtain ⟨made, outcome, decided, ok, chosen⟩ := decides
    exact {
      kind_eq := kind_eq
      branch := fun _ => ⟨node, predicate, whenTrue, whenFalse, made, known, behavior, decided,
        (next outcome ok).trans chosen⟩
      decides_iff := ⟨fun _ => kind, fun _ => by rw [decided]; rfl⟩ }
  | _ =>
    rw [behavior] at kind decides
    have notCondition : record.nodeKind ≠ .condition := by
      rw [kind]
      exact DecisionKind.noConfusion
    exact {
      kind_eq := kind_eq
      branch := fun condition => absurd condition notCondition
      decides_iff := ⟨fun some => (by rw [decides] at some; cases some),
        fun condition => absurd condition notCondition⟩ }

/-- The record that a node leaves when it is done brings the replay to where the walk goes on. -/
theorem fits_resume (keyed : executor.registry.Keyed) {id : String} {rest : List String}
    {node : DecisionNode} {before context : Context} {result : Except NodeError NodeOutcome}
    {effects : List Effect} (track : OnTrack executor.registry records (id :: rest) visited)
    (fresh : id ∉ visited) (known : executor.registry.decision? id = some node)
    (done : executor.Done node before result effects) :
    (Walk.resume ⟨rest, id :: visited, context⟩ id result).Fits executor.registry
      ((effects.filterMap Effect.record?).foldl Recorder.appended records) := by
  obtain ⟨startedAt, now, decides, record⟩ := done.record
  obtain ⟨time, stored⟩ := Recorder.afterLast_eq records
    (executor.recordOf node before startedAt now (executor.decision? node before) result)
  have sameId := keyed id node known
  rw [record]
  simp only [List.foldl_cons, List.foldl_nil, Recorder.appended, stored]
  have known : executor.registry.decision? node.id = some node := by
    rw [sameId]
    exact known
  cases result with
  | ok outcome =>
    exact track.concat fresh sameId
      (trueTo_of_decides known rfl decides fun other ok => by rw [← Except.ok.inj ok]; rfl) rfl
  | error cause =>
    exact ⟨rest, track.certifies_failed sameId
      (trueTo_of_decides known rfl decides fun other ok => by cases ok) rfl rfl⟩

end Done

theorem fits_advance {executor : Executor} (keyed : executor.registry.Keyed) (cancelled : Bool)
    (now : Timestamp) {stage : Stage} {records : List TraceRecord}
    (fits : stage.Fits executor.registry records) :
    (stage.advance executor cancelled now).1.Fits executor.registry
      (((stage.advance executor cancelled now).2.filterMap Effect.record?).foldl
        Recorder.appended records) := by
  cases stage with
  | ended result => exact fits
  | inside walk id run =>
    obtain ⟨visited, visitedNow, fresh, known, waits, track⟩ := fits
    obtain ⟨stack, _, context⟩ := walk
    obtain rfl : _ = id :: visited := visitedNow
    exact fits_resume keyed track fresh known (executor.finish_done cancelled now waits)
  | between walk =>
    have track : OnTrack executor.registry records walk.stack walk.visited := fits
    have visits := walk.visitNext_visits executor cancelled now
    change (walk.visitNext executor cancelled now).1.Fits executor.registry
      (((walk.visitNext executor cancelled now).2.filterMap Effect.record?).foldl
        Recorder.appended records)
    generalize walk.visitNext executor cancelled now = step at visits ⊢
    cases visits with
    | atEnd empty => exact ⟨walk.stack, track.certifies_ok empty walk.context⟩
    | stopped next stop =>
      rw [next] at track
      exact ⟨_, track.certifies_error (fun _ _ => WalkError.noConfusion)
        fun _ => WalkError.noConfusion⟩
    | again next seen =>
      rw [next] at track
      refine ⟨_, track.certifies_error (fun _ _ => WalkError.noConfusion) fun id same => ?_⟩
      exact ⟨(WalkError.cycleDetected.inj same).symm, seen⟩
    | missing next unknown =>
      rw [next] at track
      exact ⟨_, track.certifies_error (fun _ _ => WalkError.noConfusion)
        fun _ => WalkError.noConfusion⟩
    | done next fresh known node_done =>
      rw [next] at track
      exact fits_resume keyed track fresh known node_done
    | waits next fresh known before node_waits quiet =>
      rw [next] at track
      rw [Effect.filterMap_record?_of_quiet quiet]
      exact ⟨walk.visited, rfl, fresh, known, node_waits, track⟩

end Switchyard
