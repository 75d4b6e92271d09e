import Switchyard.Proofs.Execution.Turns
set_option autoImplicit false

/-! What a walk shows of its context. A step of a walk that begins a node gives it the context, and
from there the context comes before a predicate, before a leaf, or before whoever makes up a
capability request; no other step begins anything. Main statement: `Kept.along`, what holds of the
context that a walk starts with and is kept by every node that ends well holds of every context that
is shown and of the one that the walk ends with. -/
namespace Switchyard

/-- A node that a walk begins, and the context that it is given. -/
structure Sighting where
  node : DecisionNode
  given : Context

namespace Stage

def sights (executor : Executor) (stage : Stage) (moment : Timestamp × Bool) : List Sighting :=
  match stage with
  | .between walk =>
    match walk.stack with
    | [] => []
    | id :: _ =>
      if moment.2 then []
      else if walk.visited.contains id then []
      else ((executor.registry.decision? id).map (Sighting.mk · walk.context)).toList
  | .inside .. | .ended _ => []

/-- The nodes that some steps begin, in that order. -/
def sightsAlong (executor : Executor) (stage : Stage) : List (Timestamp × Bool) → List Sighting
  | [] => []
  | moment :: later =>
    stage.sights executor moment ++
      sightsAlong executor (stage.advance executor moment.2 moment.1).1 later

section Steps

variable (executor : Executor) (moment : Timestamp × Bool)

/-- What becomes of a walk that stands between two nodes: it begins the node on top of its stack, or
it is over, and nothing has been shown to anybody or is left behind. -/
theorem advance_between (walk : Walk) :
    (∃ id rest node, walk.stack = id :: rest ∧ executor.registry.decision? id = some node ∧
      (Stage.between walk).sights executor moment = [⟨node, walk.context⟩] ∧
      (Stage.between walk).advance executor moment.2 moment.1 =
        match executor.begin false moment.1 node walk.context with
        | (.inl result, effects) =>
          (Walk.resume ⟨rest, id :: walk.visited, walk.context⟩ id result, effects)
        | (.inr run, effects) => (.inside ⟨rest, id :: walk.visited, walk.context⟩ id run, effects)) ∨
    ((Stage.between walk).sights executor moment = [] ∧
      ∃ result effects, (Stage.between walk).advance executor moment.2 moment.1 =
        (.ended result, effects) ∧ (∀ effect ∈ effects, effect.Quiet) ∧
        ∀ context, result = .ok context → context = walk.context) := by
  obtain ⟨stack, visited, context⟩ := walk
  simp only [sights, advance, Walk.visitNext]
  cases stack with
  | nil =>
    exact Or.inr ⟨rfl, _, _, rfl, List.forall_mem_nil _, fun after ended => (Except.ok.inj ended).symm⟩
  | cons id rest =>
    dsimp only
    by_cases stopped : moment.2 = true
    · simp only [if_pos stopped]
      exact Or.inr ⟨trivial, _, _, rfl, List.forall_mem_nil _, fun after ended => by cases ended⟩
    · simp only [if_neg stopped]
      by_cases seen : visited.contains id = true
      · simp only [if_pos seen]
        exact Or.inr ⟨trivial, _, _, rfl, List.forall_mem_singleton.mpr trivial,
          fun after ended => by cases ended⟩
      · simp only [if_neg seen]
        cases known : executor.registry.decision? id with
        | none =>
          exact Or.inr ⟨rfl, _, _, rfl, List.forall_mem_nil _, fun after ended => by cases ended⟩
        | some node => exact Or.inl ⟨id, rest, node, rfl, known, rfl, rfl⟩

/-- A step that begins no node asks no predicate, leaf or capability orchestrator: it would be the
same with any others. A walk inside a node only takes in the answer to what the node has been
shown. -/
theorem advance_of_no_sights {walk : Walk} (none : (Stage.between walk).sights executor moment = [])
    {other : Executor} (same : other.registry = executor.registry) :
    (Stage.between walk).advance other moment.2 moment.1 =
      (Stage.between walk).advance executor moment.2 moment.1 := by
  obtain ⟨stack, visited, context⟩ := walk
  simp only [sights] at none
  simp only [advance, Walk.visitNext, same]
  cases stack with
  | nil => rfl
  | cons id rest =>
    dsimp only at none ⊢
    split at none
    · rename_i stopped
      simp only [if_pos stopped]
    · rename_i goesOn
      simp only [if_neg goesOn]
      split at none
      · rename_i seen
        simp only [if_pos seen]
      · rename_i fresh
        simp only [if_neg fresh]
        cases known : executor.registry.decision? id with
        | none => rfl
        | some node =>
          rw [known] at none
          cases none

end Steps

end Stage

section Kept

/-- Every node that ends well keeps what holds of the context, given what has been begun before. -/
def Kept (executor : Executor) (holds : List Sighting → Context → Prop) : Prop :=
  ∀ begun node given outcome, holds begun given → executor.Leaves node given outcome →
    holds (begun ++ [⟨node, given⟩]) outcome.context

/-- It holds of the context that a stage goes on with. Inside a node that is the context that the
node has been given. -/
def Stage.Upholds (executor : Executor) (holds : List Sighting → Context → Prop)
    (begun : List Sighting) : Stage → Prop
  | .between walk => holds begun walk.context
  | .inside _ _ run => ∃ before, begun = before ++ [⟨run.node, run.before⟩] ∧
      holds before run.before ∧ (executor.enter run.node run.before).1 = .handedOut run.work
  | .ended (.ok context) => holds begun context
  | .ended (.error _) => True

variable {executor : Executor} {holds : List Sighting → Context → Prop}

theorem Kept.resume (kept : Kept executor holds) {begun : List Sighting} {node : DecisionNode}
    {given : Context} (held : holds begun given) {stopped : Bool}
    {result : Except NodeError NodeOutcome}
    (ended : result = executor.outcome stopped node given) (walk : Walk) (id : String) :
    (walk.resume id result).Upholds executor holds (begun ++ [⟨node, given⟩]) := by
  cases result with
  | error error => trivial
  | ok outcome => exact kept begun node given outcome held (Executor.leaves_of_outcome ended.symm)

theorem Kept.advance (kept : Kept executor holds) {begun : List Sighting} {stage : Stage}
    (upholds : stage.Upholds executor holds begun) (moment : Timestamp × Bool) :
    (stage.advance executor moment.2 moment.1).1.Upholds executor holds
      (begun ++ stage.sights executor moment) := by
  cases stage with
  | ended result =>
    have nothing : (Stage.ended result).sights executor moment = [] := rfl
    rw [nothing, List.append_nil]
    exact upholds
  | inside walk id run =>
    obtain ⟨before, rfl, held, handedOut⟩ := upholds
    have nothing : (Stage.inside walk id run).sights executor moment = [] := rfl
    rw [nothing, List.append_nil]
    exact kept.resume held (Executor.finish_outcome handedOut moment.2 moment.1) walk id
  | between walk =>
    rcases Stage.advance_between executor moment walk with
      ⟨id, rest, node, -, -, begins, steps⟩ | ⟨nothing, result, effects, finished, -, same⟩
    · have came := executor.begin_outcome false moment.1 node walk.context
      rw [begins, steps]
      generalize executor.begin false moment.1 node walk.context = began at came ⊢
      obtain ⟨result | run, effects⟩ := began
      · exact kept.resume upholds came _ id
      · obtain ⟨rfl, before, handedOut⟩ := came
        refine ⟨begun, ?_, ?_, ?_⟩
        · rw [before]
        · rw [before]
          exact upholds
        · rw [before]
          exact handedOut
    · rw [nothing, finished, List.append_nil]
      cases result with
      | error error => trivial
      | ok context =>
        obtain rfl := same context rfl
        exact upholds

theorem Stage.Upholds.sights {begun : List Sighting} {stage : Stage}
    (upholds : stage.Upholds executor holds begun) (moment : Timestamp × Bool) :
    stage.sights executor moment = [] ∨
      ∃ sighting, stage.sights executor moment = [sighting] ∧ holds begun sighting.given := by
  cases stage with
  | ended result => exact Or.inl rfl
  | inside walk id run => exact Or.inl rfl
  | between walk =>
    rcases Stage.advance_between executor moment walk with
      ⟨id, rest, node, -, -, begins, -⟩ | ⟨nothing, -⟩
    · exact Or.inr ⟨_, begins, upholds⟩
    · exact Or.inl nothing

theorem Kept.advanceAll (kept : Kept executor holds) {begun : List Sighting} {stage : Stage}
    (upholds : stage.Upholds executor holds begun) (told : List (Timestamp × Bool)) :
    (∀ earlier sighting later, stage.sightsAlong executor told = earlier ++ sighting :: later →
      holds (begun ++ earlier) sighting.given) ∧
    (stage.advanceAll executor told).Upholds executor holds
      (begun ++ stage.sightsAlong executor told) := by
  induction told generalizing begun stage with
  | nil =>
    refine ⟨fun earlier sighting later split => ?_, ?_⟩
    · rw [Stage.sightsAlong] at split
      simp at split
    · rw [Stage.sightsAlong, List.append_nil]
      exact upholds
  | cons moment rest ih =>
    obtain ⟨shown, stands⟩ := ih (kept.advance upholds moment)
    rw [Stage.sightsAlong, Stage.advanceAll_cons, ← List.append_assoc]
    refine ⟨fun earlier sighting later split => ?_, stands⟩
    rcases upholds.sights moment with nothing | ⟨first, one, held⟩
    · rw [nothing, List.nil_append] at split
      rw [nothing, List.append_nil] at shown
      exact shown earlier sighting later split
    · rw [one] at split shown
      cases earlier with
      | nil =>
        obtain ⟨rfl, -⟩ := List.cons.inj split
        rw [List.append_nil]
        exact held
      | cons head others =>
        obtain ⟨rfl, remains⟩ := List.cons.inj split
        have held := shown others sighting later remains
        rw [List.append_assoc] at held
        exact held

/-- What holds of the context that a walk starts with, and is kept by every node that ends well,
holds of every context that is shown on the way, and of the one that the walk ends with. -/
theorem Kept.along (kept : Kept executor holds) {start : String} {context : Context}
    (begins : holds [] context) (told : List (Timestamp × Bool)) :
    (∀ earlier sighting later,
      (Walk.start start context).sightsAlong executor told = earlier ++ sighting :: later →
      holds earlier sighting.given) ∧
    ∀ after, (Walk.start start context).advanceAll executor told = .ended (.ok after) →
      holds ((Walk.start start context).sightsAlong executor told) after := by
  have upholds : (Walk.start start context).Upholds executor holds [] := begins
  obtain ⟨shown, stands⟩ := kept.advanceAll upholds told
  refine ⟨shown, fun after ended => ?_⟩
  rw [ended] at stands
  exact stands

end Kept

end Switchyard
