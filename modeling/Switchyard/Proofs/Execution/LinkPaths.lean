import Switchyard.Proofs.Execution.Safety
set_option autoImplicit false

/-! The ways along links by which a walk meets its nodes. Main statement: `walk_along_links`, a walk
comes back to a node only if two ways lead there; a tree of working nodes is executed in full, in
the order in which it is read. -/
namespace Switchyard

/-- Neither way passes through where the other one leads. -/
def Apart (first second : List Nat) : Prop := ¬ first <+: second ∧ ¬ second <+: first

theorem Apart.of_step {way other : List Nat} (apart : Apart way other) (position : Nat) :
    Apart (way ++ [position]) other := by
  refine ⟨fun within => apart.1 ((List.prefix_append way [position]).trans within),
    fun within => ?_⟩
  rcases List.prefix_concat_iff.mp within with rfl | shorter
  · exact apart.1 (List.prefix_append way [position])
  · exact apart.2 shorter

theorem apart_of_ne (way : List Nat) {first second : Nat} (different : first ≠ second) :
    Apart (way ++ [first]) (way ++ [second]) := by
  have parted : ∀ {left right : Nat}, left ≠ right → ¬ way ++ [left] <+: way ++ [right] := by
    intro left right different within
    obtain ⟨same, -⟩ := List.cons_prefix_cons.mp ((List.prefix_append_right_inj way).mp within)
    exact different same
  exact ⟨parted different, parted different.symm⟩

/-- What a node goes on to stands among its links, at positions of which none comes twice. -/
theorem positions_of_sublist {next targets : List String} (part : next.Sublist targets) :
    ∃ positions : List Nat, positions.Pairwise (· ≠ ·) ∧
      positions.map (targets[·]?) = next.map some := by
  induction part with
  | slnil => exact ⟨[], List.Pairwise.nil, rfl⟩
  | @cons next targets skipped part ih =>
    obtain ⟨positions, distinct, found⟩ := ih
    refine ⟨positions.map (· + 1), ?_, ?_⟩
    · exact List.pairwise_map.mpr (distinct.imp fun different same => different (by omega))
    · rw [List.map_map, ← found]
      rfl
  | @cons_cons next targets taken part ih =>
    obtain ⟨positions, distinct, found⟩ := ih
    refine ⟨0 :: positions.map (· + 1), List.pairwise_cons.mpr ⟨fun later inside => ?_, ?_⟩, ?_⟩
    · obtain ⟨position, -, rfl⟩ := List.mem_map.mp inside
      omega
    · exact List.pairwise_map.mpr (distinct.imp fun different same => different (by omega))
    · rw [List.map_cons, List.map_map, List.map_cons, ← found]
      rfl

/-- Ways to the ids that wait and to those that have been visited, in their order. No way to an id
that waits leads on to another one or to a node that has been visited. -/
structure Ways (registry : Registry) (walk : Walk) (ahead behind : List (List Nat)) : Prop where
  stack : ahead.map (registry.follow registry.root) = walk.stack.map some
  visited : behind.map (registry.follow registry.root) = walk.visited.map some
  apart : ahead.Pairwise Apart
  open_ended : ∀ way ∈ ahead, ∀ old ∈ behind, ¬ way <+: old

section Ways

variable {executor : Executor} {context : Context}

/-- The first way leads to the id that is next. -/
theorem Ways.first {registry : Registry} {walk : Walk} {id : String} {rest : List String}
    {ahead behind : List (List Nat)} (ways : Ways registry walk ahead behind)
    (next : walk.stack = id :: rest) :
    ∃ way others, ahead = way :: others ∧ registry.follow registry.root way = some id ∧
      others.map (registry.follow registry.root) = rest.map some := by
  have stack := ways.stack
  rw [next, List.map_cons] at stack
  exact List.map_eq_cons_iff.mp stack

/-- The way to the node that has its turn is continued along each link that the node goes on by. -/
theorem Ways.turn {walk : Walk} {id : String} {rest : List String} {node : DecisionNode}
    {outcome : NodeOutcome} {last : Executed} {ahead behind : List (List Nat)}
    (ways : Ways executor.registry walk ahead behind)
    (turn : Turn executor walk id rest node (.ok outcome) last) :
    ∃ further, Ways executor.registry
      ⟨outcome.next ++ rest, id :: walk.visited, outcome.context⟩ further
        (ahead.take 1 ++ behind) := by
  obtain ⟨positions, distinct, found⟩ := positions_of_sublist turn.next_sublist
  obtain ⟨way, others, rfl, led, below⟩ := ways.first turn.next
  have apart := List.pairwise_cons.mp ways.apart
  have fresh := List.forall_mem_cons.mp ways.open_ended
  refine ⟨positions.map (fun position => way ++ [position]) ++ others, ?_, ?_, ?_, ?_⟩
  · have continued : ∀ position ∈ positions,
        executor.registry.follow executor.registry.root (way ++ [position]) =
          node.targets[position]? := by
      intro position inside
      have linked : node.targets[position]? ∈ outcome.next.map some :=
        found ▸ List.mem_map_of_mem inside
      obtain ⟨target, -, same⟩ := List.mem_map.mp linked
      rw [← same]
      exact Registry.follow_concat led turn.known same.symm
    rw [List.map_append, List.map_map, List.map_append, below, ← found]
    exact congrArg (· ++ _) (List.map_congr_left continued)
  · change executor.registry.follow executor.registry.root way :: behind.map _ = _
    rw [led, ways.visited]
    rfl
  · refine List.pairwise_append.mpr ⟨?_, apart.2, fun longer inside other below => ?_⟩
    · exact List.pairwise_map.mpr (distinct.imp fun different => apart_of_ne way different)
    · obtain ⟨position, -, rfl⟩ := List.mem_map.mp inside
      exact (apart.1 other below).of_step position
  -- The way of the node that has its turn is now one of those behind.
  · rintro longer inside old (_ | ⟨_, earlier⟩)
    · rcases List.mem_append.mp inside with new | below
      · obtain ⟨position, -, rfl⟩ := List.mem_map.mp new
        intro within
        have shorter := within.length_le
        rw [List.length_append, List.length_singleton] at shorter
        omega
      · exact (apart.1 longer below).2
    · rcases List.mem_append.mp inside with new | below
      · obtain ⟨position, -, rfl⟩ := List.mem_map.mp new
        exact fun within =>
          fresh.1 old earlier ((List.prefix_append way [position]).trans within)
      · exact fresh.2 longer below old earlier

theorem Reached.ways {executed : List Executed} {walk : Walk}
    (reached : Reached executor executor.registry.root context executed walk) :
    ∃ ahead behind, Ways executor.registry walk ahead behind := by
  induction reached with
  | start =>
    exact ⟨[[]], [], rfl, rfl, List.pairwise_singleton _ _, fun _ _ old inside =>
      (List.not_mem_nil inside).elim⟩
  | turn before turn ih =>
    obtain ⟨ahead, behind, ways⟩ := ih
    obtain ⟨further, ways⟩ := ways.turn turn
    exact ⟨further, _, ways⟩

/-- Two ways lead to a node that waits although it has been visited. -/
theorem Reached.two_ways {executed : List Executed} {walk : Walk} {id : String}
    {rest : List String}
    (reached : Reached executor executor.registry.root context executed walk)
    (next : walk.stack = id :: rest) (seen : id ∈ walk.visited) :
    ∃ first second, first ≠ second ∧
      executor.registry.follow executor.registry.root first = some id ∧
      executor.registry.follow executor.registry.root second = some id := by
  obtain ⟨ahead, behind, ways⟩ := reached.ways
  obtain ⟨first, others, rfl, firstLed, -⟩ := ways.first next
  have inside : some id ∈ behind.map (executor.registry.follow executor.registry.root) := by
    rw [ways.visited]
    exact List.mem_map_of_mem seen
  obtain ⟨second, old, secondLed⟩ := List.mem_map.mp inside
  refine ⟨first, second, ?_, firstLed, secondLed⟩
  rintro rfl
  exact ways.open_ended first List.mem_cons_self first old (List.prefix_refl first)

/-! Trees of working nodes. -/

/-- Every node that a way leads to runs an action or asks for a capability. -/
def OnlyWorks (registry : Registry) : Prop :=
  ∀ (id : String) (path : List Nat) (node : DecisionNode),
    registry.follow registry.root path = some id → registry.decision? id = some node →
      node.kind = .action ∨ node.kind = .capability

theorem Reached.next_eq_targets (works : OnlyWorks executor.registry) {executed : List Executed}
    {walk : Walk} {id : String} {rest : List String} {node : DecisionNode} {outcome : NodeOutcome}
    {last : Executed} (before : Reached executor executor.registry.root context executed walk)
    (turn : Turn executor walk id rest node (.ok outcome) last) : outcome.next = node.targets := by
  obtain ⟨ahead, behind, ways⟩ := before.ways
  obtain ⟨way, -, -, led, -⟩ := ways.first turn.next
  obtain ⟨stopped, ended⟩ := turn.ended
  exact Executor.next_eq_targets (Executor.leaves_of_outcome ended)
    (works id way node led turn.known)

/-- What has been executed, and then whatever is read from the ids that wait, is read from the
root. -/
theorem Reached.preorder (keyed : executor.registry.Keyed) (works : OnlyWorks executor.registry)
    {executed : List Executed} {walk : Walk}
    (reached : Reached executor executor.registry.root context executed walk)
    {order : List String} (read : executor.registry.Preorder walk.stack order) :
    executor.registry.Preorder [executor.registry.root]
      (executed.map (·.record.nodeId) ++ order) := by
  -- What the links of the last node lead to belongs below it, and what waited beside it.
  induction reached generalizing order with
  | start => exact read
  | @turn executed walk id rest node outcome last before turn ih =>
    rw [before.next_eq_targets works turn] at read
    obtain ⟨below, beside, rfl, down, across⟩ := read.of_append
    have whole : executor.registry.Preorder walk.stack (id :: (below ++ beside)) := by
      rw [turn.next]
      exact .cons turn.known down across
    have earlier := ih whole
    rw [List.map_append, List.map_singleton, turn.nodeId keyed, List.append_assoc,
      List.singleton_append]
    exact earlier

/-- A walk that ends because it has come back to a node could have come there in two ways. -/
theorem Ended.two_ways {executed : List Executed} {id : String}
    (ended : Ended executor executor.registry.root context executed (.error (.cycleDetected id))) :
    ∃ first second, first ≠ second ∧
      executor.registry.follow executor.registry.root first = some id ∧
      executor.registry.follow executor.registry.root second = some id := by
  generalize failure : Except.error (WalkError.cycleDetected id) = result at ended
  cases ended with
  | again before next seen =>
    obtain rfl := WalkError.cycleDetected.inj (Except.error.inj failure)
    exact before.two_ways next seen
  | @failed _ _ other _ _ cause => cases cause <;> cases failure
  | _ => cases failure

/-- A walk of working nodes that ends well has executed what is read from the root. -/
theorem Ended.preorder (keyed : executor.registry.Keyed) (works : OnlyWorks executor.registry)
    {executed : List Executed} {final : Context}
    (ended : Ended executor executor.registry.root context executed (.ok final)) :
    executor.registry.Preorder [executor.registry.root] (executed.map (·.record.nodeId)) := by
  cases ended with
  | @atEnd _ walk before empty =>
    have nothing : executor.registry.Preorder walk.stack [] := by
      rw [empty]
      exact .nil
    have read := before.preorder keyed works nothing
    rw [List.append_nil] at read
    exact read

/-- A walk that comes back to a node could have come there in two ways. In a tree, therefore, the
graph is never at fault; and a walk of a tree in which every node works, none fails and nobody
cancels, executes each node that some way leads to, none of them twice, in the order in which the
tree is read. -/
theorem walk_along_links {executor : Executor} (accepted : executor.registry.Accepted)
    (context : Context) (told : List (Timestamp × Bool)) :
    let registry := executor.registry
    let start := Walk.start registry.root context
    let stage := start.advanceAll executor told
    let executed := (start.executedAlong executor told).map (·.record.nodeId)
    (∀ id, stage = .ended (.error (.cycleDetected id)) →
      ∃ first second, first ≠ second ∧ registry.follow registry.root first = some id ∧
        registry.follow registry.root second = some id) ∧
    (registry.IsTree →
      (∀ error, stage = .ended (.error error) → error.isTraversal = false) ∧
      (OnlyWorks registry → (∀ id cause, stage ≠ .ended (.error (.nodeFailed id cause))) →
        stage ≠ .ended (.error .cancelled) → 2 * registry.decision.size + 1 ≤ told.length →
        (∃ final, stage = .ended (.ok final)) ∧ executed.Nodup ∧
          registry.Preorder [registry.root] executed ∧
          ∀ id, id ∈ executed ↔ ∃ path, registry.follow registry.root path = some id)) := by
  intro registry start stage executed
  have standing := standing_along executor registry.root context told
  have safe : Safe registry (start.executedAlong executor told) stage :=
    Standing.safe accepted standing
  have twoWays : ∀ id, stage = .ended (.error (.cycleDetected id)) →
      ∃ first second, first ≠ second ∧ registry.follow registry.root first = some id ∧
        registry.follow registry.root second = some id := by
    intro id ended
    have stands : Standing executor registry.root context _ stage := standing
    rw [ended] at stands
    exact Ended.two_ways stands
  refine ⟨twoWays, fun tree => ?_⟩
  have noCycle : ∀ id, stage ≠ .ended (.error (.cycleDetected id)) := by
    intro id ended
    obtain ⟨first, second, different, firstLed, secondLed⟩ := twoWays id ended
    exact different (tree id first second firstLed secondLed)
  refine ⟨fun error ended => ?_, fun works noFailure notCancelled enough => ?_⟩
  · cases error with
    | missingNode id => exact absurd ended (safe.found id)
    | cycleDetected id => exact absurd ended (noCycle id)
    | nodeFailed id cause => rfl
    | cancelled => rfl
  · obtain ⟨result, ended⟩ := walk_ends executor registry.root context enough
    have well : ∃ final, stage = .ended (.ok final) := by
      cases result with
      | ok final => exact ⟨final, ended⟩
      | error error =>
        cases error with
        | missingNode id => exact absurd ended (safe.found id)
        | cycleDetected id => exact absurd ended (noCycle id)
        | nodeFailed id cause => exact absurd ended (noFailure id cause)
        | cancelled => exact absurd ended notCancelled
    obtain ⟨final, finished⟩ := well
    have stands : Standing executor registry.root context _ stage := standing
    rw [finished] at stands
    have read := Ended.preorder accepted.keyed works stands
    refine ⟨⟨final, finished⟩, ?_, read, fun id => ?_⟩
    · have once := safe.once
      rw [finished, Stage.current, List.append_nil] at once
      exact once
    · have reached := read.mem_iff id
      simp only [List.mem_singleton, exists_eq_left] at reached
      exact reached

end Ways

namespace Executor.Sample

def fork : GraphDefinition where
  root := "stem"
  decisionNodes := [
    { id := "stem", behavior := .action ⟨.configure, "", []⟩, children := ["left", "right"] },
    { id := "left", behavior := .action ⟨.configure, "", []⟩ },
    { id := "right", behavior := .action ⟨.configure, "", []⟩ }]

theorem follow_fork {path : List Nat} {id : String}
    (led : (executor fork).registry.follow "stem" path = some id) :
    path = [] ∧ id = "stem" ∨ path = [0] ∧ id = "left" ∨ path = [1] ∧ id = "right" := by
  have stops : ∀ {tip : String} {node : DecisionNode} {path : List Nat} {id : String},
      (executor fork).registry.decision? tip = some node → node.targets = [] →
      (executor fork).registry.follow tip path = some id → path = [] ∧ id = tip := by
    intro tip node path id known noLinks led
    cases path with
    | nil => exact ⟨rfl, (Option.some.inj led).symm⟩
    | cons position path =>
      obtain ⟨other, target, found, linked, -⟩ := Registry.of_follow_cons led
      rw [← Option.some.inj (known.symm.trans found), noLinks] at linked
      cases linked
  cases path with
  | nil => exact Or.inl ⟨rfl, (Option.some.inj led).symm⟩
  | cons position path =>
    obtain ⟨node, target, found, linked, rest⟩ := Registry.of_follow_cons led
    have known : (executor fork).registry.decision? "stem" = some
        { id := "stem", behavior := .action ⟨.configure, "", []⟩,
          children := ["left", "right"] } := by rfl
    obtain rfl := Option.some.inj (found.symm.trans known)
    change ["left", "right"][position]? = some target at linked
    match position with
    | 0 =>
      obtain rfl := Option.some.inj linked
      obtain ⟨rfl, rfl⟩ := stops (by rfl) (by rfl) rest
      exact Or.inr (Or.inl ⟨rfl, rfl⟩)
    | 1 =>
      obtain rfl := Option.some.inj linked
      obtain ⟨rfl, rfl⟩ := stops (by rfl) (by rfl) rest
      exact Or.inr (Or.inr ⟨rfl, rfl⟩)
    | position + 2 => cases linked

end Executor.Sample

theorem fork_walk_along_links :
    let executor := Executor.Sample.executor Executor.Sample.fork
    let registry := executor.registry
    let start := Walk.start "stem" Executor.Sample.context
    let stage := start.advanceAll executor (Executor.Sample.moments 7)
    let executed := (start.executedAlong executor (Executor.Sample.moments 7)).map
      (·.record.nodeId)
    registry.Accepted ∧ registry.IsTree ∧ OnlyWorks registry ∧
      (∃ final, stage = .ended (.ok final)) ∧ registry.Preorder ["stem"] executed := by
  intro executor registry start stage executed
  have read : Registry.ofDefinition Executor.Sample.fork = .ok registry := by rfl
  have accepted := Registry.accepted_of_ofDefinition read
  have tree : registry.IsTree := by
    intro id first second firstLed secondLed
    rcases Executor.Sample.follow_fork firstLed with ⟨rfl, rfl⟩ | ⟨rfl, rfl⟩ | ⟨rfl, rfl⟩ <;>
      rcases Executor.Sample.follow_fork secondLed with ⟨rfl, same⟩ | ⟨rfl, same⟩ | ⟨rfl, same⟩ <;>
      first | rfl | exact absurd same (by decide)
  have works : OnlyWorks registry := by
    intro id path node led known
    rcases Executor.Sample.follow_fork led with ⟨rfl, rfl⟩ | ⟨rfl, rfl⟩ | ⟨rfl, rfl⟩ <;>
      exact Or.inl (Option.some.inj known ▸ rfl)
  have ended : ∃ final, stage = .ended (.ok final) := ⟨_, rfl⟩
  obtain ⟨-, inTree⟩ :=
    walk_along_links accepted Executor.Sample.context (Executor.Sample.moments 7)
  obtain ⟨final, finished⟩ := ended
  obtain ⟨ok, once, preorder, -⟩ := (inTree tree).2 works
    (fun id cause failed => by cases finished.symm.trans failed)
    (fun stopped => by cases finished.symm.trans stopped) (by decide)
  exact ⟨accepted, tree, works, ok, preorder⟩

end Switchyard
