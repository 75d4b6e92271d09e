import Mathlib.Data.List.Induction
import Switchyard.Proofs.Registry.Accepted
set_option autoImplicit false

/-! What makes a graph valid. Nodes are registered and roots named by calls in any order; a call
that is refused is as if it had not been made. Main statement: `RegistryBuilder.build_exact`,
freezing succeeds just when everything that has to lead to a node does, and else it reports the
first fault. -/
namespace Switchyard.RegistryBuilder

/-! Calls. -/

inductive Call where
  | dataFlow (node : DataFlowNode)
  | decision (node : DecisionNode)
  | root (id : String)

namespace Call

def perform (builder : RegistryBuilder) : Call → Except RegistryError RegistryBuilder
  | dataFlow node => builder.registerDataFlow node
  | decision node => builder.registerDecision node
  | root id => .ok (builder.withRoot id)

/-- The data-flow node that a call is to register under an id. -/
def dataFlow? (id : String) : Call → Option DataFlowNode
  | dataFlow node => if node.id = id then some node else none
  | decision _ | root _ => none

/-- The decision node that a call is to register under an id. -/
def decision? (id : String) : Call → Option DecisionNode
  | decision node => if node.id = id then some node else none
  | dataFlow _ | root _ => none

def root? : Call → Option String
  | root id => some id
  | dataFlow _ | decision _ => none

end Call

/-- The builder after a call; one that is refused leaves the builder as it was. -/
def attempt (builder : RegistryBuilder) (call : Call) : RegistryBuilder :=
  match call.perform builder with
  | .ok after => after
  | .error _ => builder

/-- The builder after calls on an empty one. -/
def attemptAll (calls : List Call) : RegistryBuilder := calls.foldl attempt {}

theorem attemptAll_concat (calls : List Call) (call : Call) :
    attemptAll (calls ++ [call]) = (attemptAll calls).attempt call := by
  rw [attemptAll, List.foldl_append]
  rfl

/-! What the calls say. -/

section Calls

variable (calls : List Call)

def firstDataFlow? (id : String) : Option DataFlowNode := calls.findSome? (Call.dataFlow? id)

def firstDecision? (id : String) : Option DecisionNode := calls.findSome? (Call.decision? id)

def lastRoot? : Option String := (calls.filterMap Call.root?).getLast?

def HasDataFlow (id : String) : Prop := ∃ node, firstDataFlow? calls id = some node

def HasDecision (id : String) : Prop := ∃ node, firstDecision? calls id = some node

/-- The calls that are refused: those for an id that an earlier call has taken. -/
inductive Refused : Call → RegistryError → Prop
  | dataFlow {node : DataFlowNode} (taken : HasDataFlow calls node.id) :
      Refused (.dataFlow node) (.duplicateDataFlowNode node.id)
  | decision {node : DecisionNode} (taken : HasDecision calls node.id) :
      Refused (.decision node) (.duplicateDecisionNode node.id)

/-- Everything in a node that has to lead to a node does. -/
structure Resolves (node : DecisionNode) : Prop where
  whenTrue : ∀ predicate target whenFalse,
    node.behavior = .condition predicate (some target) whenFalse → HasDecision calls target
  whenFalse : ∀ predicate whenTrue target,
    node.behavior = .condition predicate whenTrue (some target) → HasDecision calls target
  children : ∀ target ∈ node.children, HasDecision calls target
  /-- Capability nodes are left out: they name a capability. -/
  work : ∀ action : NodeAction, node.behavior = .action action ∨ node.behavior = .fallback action →
    action.type = .activate ∨ action.type = .fallback →
      HasDataFlow calls action.target ∨ HasDecision calls action.target

/-- The fault of a node: the first of its links that leads nowhere or, when all of them lead to a
node, the target of its action. -/
inductive FaultOf (node : DecisionNode) : RegistryError → Prop
  | dangling {before after : List (LinkField × String)} {field : LinkField} {target : String}
      (links : node.links = before ++ (field, target) :: after)
      (resolved : ∀ link ∈ before, HasDecision calls link.2)
      (missing : ¬ HasDecision calls target) :
      FaultOf node (.danglingReference node.id field target)
  | unresolved {action : NodeAction} (resolved : ∀ link ∈ node.links, HasDecision calls link.2)
      (runs : node.behavior = .action action ∨ node.behavior = .fallback action)
      (needed : action.type = .activate ∨ action.type = .fallback)
      (missing : ¬ (HasDataFlow calls action.target ∨ HasDecision calls action.target)) :
      FaultOf node (.unresolvedActionTarget node.id action.target)

/-- The fault that is reported: the root's or, when that is a node, the one of the first node in id
order that has any. -/
inductive FirstFault : RegistryError → Prop
  | missingRoot (unnamed : lastRoot? calls = none) : FirstFault .missingRoot
  | unknownRoot {root : String} (named : lastRoot? calls = some root)
      (unknown : ¬ HasDecision calls root) : FirstFault (.unknownRoot root)
  | node {root id : String} {node : DecisionNode} {error : RegistryError}
      (named : lastRoot? calls = some root) (known : HasDecision calls root)
      (found : firstDecision? calls id = some node) (fault : FaultOf calls node error)
      (first : ∀ earlier other, earlier < id → firstDecision? calls earlier = some other →
        Resolves calls other) : FirstFault error

end Calls

theorem forall_links_iff (node : DecisionNode) (leads : String → Prop) :
    (∀ link ∈ node.links, leads link.2) ↔
      (∀ predicate target whenFalse,
        node.behavior = .condition predicate (some target) whenFalse → leads target) ∧
      (∀ predicate whenTrue target,
        node.behavior = .condition predicate whenTrue (some target) → leads target) ∧
      ∀ target ∈ node.children, leads target := by
  simp only [DecisionNode.links, List.forall_mem_append, List.forall_mem_map, ← and_assoc]
  refine and_congr_left fun _ => ?_
  cases node.behavior with
  | condition predicate whenTrue whenFalse =>
    cases whenTrue <;> cases whenFalse <;> simp [DecisionNode.branchLinks]
  | action | capability | fallback => simp [DecisionNode.branchLinks]

/-! What the builder holds. -/

theorem get?_unlessTaken {α : Type} (dict : Dict α) (key other : String) (value : α) :
    (if dict.contains key then dict else dict.insert key value).get? other =
      (dict.get? other).or (if key = other then some value else none) := by
  by_cases same : key = other
  · subst same
    cases found : dict.get? key <;> simp [Dict.contains, found]
  · rw [if_neg same, Option.or_none]
    split
    · rfl
    · exact Dict.get?_insert_of_ne dict same value

theorem attempt_dataFlow (builder : RegistryBuilder) (node : DataFlowNode) :
    builder.attempt (.dataFlow node) = { builder with
      dataFlow := if builder.dataFlow.contains node.id then builder.dataFlow
        else builder.dataFlow.insert node.id node } := by
  simp only [attempt, Call.perform, registerDataFlow]
  cases builder.dataFlow.contains node.id <;> rfl

theorem attempt_decision (builder : RegistryBuilder) (node : DecisionNode) :
    builder.attempt (.decision node) = { builder with
      decision := if builder.decision.contains node.id then builder.decision
        else builder.decision.insert node.id node } := by
  simp only [attempt, Call.perform, registerDecision]
  cases builder.decision.contains node.id <;> rfl

/-- The builder holds what the first call under an id and the last call for a root say. -/
structure Holds (builder : RegistryBuilder) (calls : List Call) : Prop where
  dataFlow : ∀ id, builder.dataFlow.get? id = firstDataFlow? calls id
  decision : ∀ id, builder.decision.get? id = firstDecision? calls id
  root : builder.root = lastRoot? calls

theorem Holds.attempt {builder : RegistryBuilder} {calls : List Call}
    (holds : builder.Holds calls) (call : Call) :
    (builder.attempt call).Holds (calls ++ [call]) := by
  have dataFlow (id : String) : firstDataFlow? (calls ++ [call]) id =
      (builder.dataFlow.get? id).or (call.dataFlow? id) := by
    rw [holds.dataFlow, firstDataFlow?, List.findSome?_append, List.findSome?_singleton]
    rfl
  have decision (id : String) : firstDecision? (calls ++ [call]) id =
      (builder.decision.get? id).or (call.decision? id) := by
    rw [holds.decision, firstDecision?, List.findSome?_append, List.findSome?_singleton]
    rfl
  have root : lastRoot? (calls ++ [call]) = call.root?.or builder.root := by
    rw [holds.root, lastRoot?, List.filterMap_append, List.getLast?_append]
    cases call <;> rfl
  cases call with
  | dataFlow node =>
    rw [attempt_dataFlow]
    exact ⟨fun id => (get?_unlessTaken _ _ _ _).trans (dataFlow id).symm,
      fun id => (Option.or_none.symm.trans (decision id).symm), root.symm⟩
  | decision node =>
    rw [attempt_decision]
    exact ⟨fun id => (Option.or_none.symm.trans (dataFlow id).symm),
      fun id => (get?_unlessTaken _ _ _ _).trans (decision id).symm, root.symm⟩
  | root id =>
    exact ⟨fun id => (Option.or_none.symm.trans (dataFlow id).symm),
      fun id => (Option.or_none.symm.trans (decision id).symm), root.symm⟩

theorem attemptAll_holds (calls : List Call) : (attemptAll calls).Holds calls := by
  induction calls using List.reverseRecOn with
  | nil => exact ⟨fun _ => rfl, fun _ => rfl, rfl⟩
  | append_singleton calls call ih =>
    rw [attemptAll_concat]
    exact ih.attempt call

section Checks

variable {builder : RegistryBuilder} {calls : List Call} (holds : builder.Holds calls)

include holds

theorem Holds.contains_dataFlow (id : String) :
    builder.dataFlow.contains id = true ↔ HasDataFlow calls id := by
  rw [Dict.contains_iff, holds.dataFlow]
  rfl

theorem Holds.contains_decision (id : String) :
    builder.decision.contains id = true ↔ HasDecision calls id := by
  rw [Dict.contains_iff, holds.decision]
  rfl

theorem Holds.perform_eq_error_iff (call : Call) (error : RegistryError) :
    call.perform builder = .error error ↔ Refused calls call error := by
  constructor
  · intro refused
    cases call with
    | dataFlow node =>
      simp only [Call.perform, registerDataFlow] at refused
      split at refused
      · rename_i taken
        rw [← Except.error.inj refused]
        exact .dataFlow ((holds.contains_dataFlow node.id).mp taken)
      · cases refused
    | decision node =>
      simp only [Call.perform, registerDecision] at refused
      split at refused
      · rename_i taken
        rw [← Except.error.inj refused]
        exact .decision ((holds.contains_decision node.id).mp taken)
      · cases refused
    | root id => cases refused
  · rintro (taken | taken)
    · exact if_pos ((holds.contains_dataFlow _).mpr taken)
    · exact if_pos ((holds.contains_decision _).mpr taken)

theorem Holds.danglingLink?_eq_some_iff (node : DecisionNode) (error : RegistryError) :
    builder.danglingLink? node = some error ↔
      ∃ before field target after, node.links = before ++ (field, target) :: after ∧
        (∀ link ∈ before, HasDecision calls link.2) ∧ ¬ HasDecision calls target ∧
        error = .danglingReference node.id field target := by
  rw [danglingLink?, Option.map_eq_some_iff]
  simp only [List.find?_eq_some_iff_append, Bool.not_eq_true', Bool.not_not,
    ← Bool.not_eq_true, holds.contains_decision]
  constructor
  · rintro ⟨⟨field, target⟩, ⟨missing, before, after, links, resolved⟩, rfl⟩
    exact ⟨before, field, target, after, links, resolved, missing, rfl⟩
  · rintro ⟨before, field, target, after, links, resolved, missing, rfl⟩
    exact ⟨(field, target), ⟨missing, before, after, links, resolved⟩, rfl⟩

theorem Holds.danglingLink?_eq_none_iff (node : DecisionNode) :
    builder.danglingLink? node = none ↔ ∀ link ∈ node.links, HasDecision calls link.2 := by
  rw [danglingLink?, Option.map_eq_none_iff, List.find?_eq_none]
  simp only [Bool.not_eq_true', Bool.not_eq_false, holds.contains_decision]

theorem Holds.unresolvedTarget?_eq_some_iff (node : DecisionNode) (error : RegistryError) :
    builder.unresolvedTarget? node = some error ↔
      ∃ action : NodeAction,
        (node.behavior = .action action ∨ node.behavior = .fallback action) ∧
        (action.type = .activate ∨ action.type = .fallback) ∧
        ¬ (HasDataFlow calls action.target ∨ HasDecision calls action.target) ∧
        error = .unresolvedActionTarget node.id action.target := by
  have reported (action : NodeAction) :
      (if action.type.needsTarget && !builder.dataFlow.contains action.target &&
          !builder.decision.contains action.target then
        some (RegistryError.unresolvedActionTarget node.id action.target) else none) = some error ↔
      (action.type = .activate ∨ action.type = .fallback) ∧
        ¬ (HasDataFlow calls action.target ∨ HasDecision calls action.target) ∧
        error = .unresolvedActionTarget node.id action.target := by
    have needed : action.type.needsTarget = true ↔
        action.type = .activate ∨ action.type = .fallback := by
      cases action.type <;> decide
    rw [Option.ite_none_right_eq_some, Option.some.injEq, Bool.and_eq_true, Bool.and_eq_true,
      needed, Bool.not_eq_true', Bool.not_eq_true', ← Bool.not_eq_true, ← Bool.not_eq_true,
      holds.contains_dataFlow, holds.contains_decision, not_or, and_assoc, and_assoc, and_assoc,
      eq_comm (a := error)]
  unfold unresolvedTarget?
  cases node.behavior with
  | condition => simp
  | capability => simp
  | action action => simpa using reported action
  | fallback action => simpa using reported action

theorem Holds.nodeFault?_eq_some_iff (node : DecisionNode) (error : RegistryError) :
    builder.nodeFault? node = some error ↔ FaultOf calls node error := by
  rw [nodeFault?, Option.or_eq_some_iff, holds.danglingLink?_eq_some_iff,
    holds.danglingLink?_eq_none_iff, holds.unresolvedTarget?_eq_some_iff]
  constructor
  · rintro (⟨before, field, target, after, links, resolved, missing, rfl⟩ |
      ⟨resolved, action, runs, needed, missing, rfl⟩)
    · exact .dangling links resolved missing
    · exact .unresolved resolved runs needed missing
  · rintro (⟨links, resolved, missing⟩ | ⟨resolved, runs, needed, missing⟩)
    · exact Or.inl ⟨_, _, _, _, links, resolved, missing, rfl⟩
    · exact Or.inr ⟨resolved, _, runs, needed, missing, rfl⟩

theorem Holds.nodeFault?_eq_none_iff (node : DecisionNode) :
    builder.nodeFault? node = none ↔ Resolves calls node := by
  rw [nodeFault?, Option.or_eq_none_iff, holds.danglingLink?_eq_none_iff, forall_links_iff]
  constructor
  · rintro ⟨⟨whenTrue, whenFalse, children⟩, none⟩
    refine ⟨whenTrue, whenFalse, children, fun action runs needed => ?_⟩
    by_contra missing
    have reported := (holds.unresolvedTarget?_eq_some_iff node _).mpr
      ⟨action, runs, needed, missing, rfl⟩
    rw [none] at reported
    cases reported
  · intro resolves
    refine ⟨⟨resolves.whenTrue, resolves.whenFalse, resolves.children⟩, ?_⟩
    by_contra reported
    obtain ⟨error, found⟩ := Option.ne_none_iff_exists'.mp reported
    obtain ⟨action, runs, needed, missing, -⟩ :=
      (holds.unresolvedTarget?_eq_some_iff node error).mp found
    exact missing (resolves.work action runs needed)

theorem Holds.noFault_iff :
    builder.decision.values.findSome? builder.nodeFault? = none ↔
      ∀ id node, firstDecision? calls id = some node → Resolves calls node := by
  rw [List.findSome?_eq_none_iff, Dict.forall_mem_values_iff]
  simp only [holds.decision, holds.nodeFault?_eq_none_iff]

theorem Holds.firstFault_iff (error : RegistryError) :
    builder.decision.values.findSome? builder.nodeFault? = some error ↔
      ∃ id node, firstDecision? calls id = some node ∧ FaultOf calls node error ∧
        ∀ earlier other, earlier < id → firstDecision? calls earlier = some other →
          Resolves calls other := by
  rw [Dict.findSome?_values_eq_some_iff]
  simp only [holds.decision, holds.nodeFault?_eq_some_iff, holds.nodeFault?_eq_none_iff]

theorem Holds.build_eq_ok_iff (registry : Registry) :
    builder.build = .ok registry ↔ ∃ root, lastRoot? calls = some root ∧
      HasDecision calls root ∧ (∀ id node, firstDecision? calls id = some node →
        Resolves calls node) ∧
      registry = ⟨builder.dataFlow, builder.decision, root, hasCycle builder.decision⟩ := by
  rw [build, holds.root, ← holds.noFault_iff]
  cases lastRoot? calls with
  | none => simp
  | some root =>
    by_cases known : HasDecision calls root
    · have contained := (holds.contains_decision root).mpr known
      cases builder.decision.values.findSome? builder.nodeFault? <;>
        simp [contained, known, eq_comm]
    · have absent : builder.decision.contains root = false :=
        Bool.eq_false_iff.mpr (mt (holds.contains_decision root).mp known)
      simp [absent, known]

theorem Holds.build_eq_error_iff (error : RegistryError) :
    builder.build = .error error ↔ FirstFault calls error := by
  rw [build, holds.root]
  constructor
  · intro failed
    split at failed
    · rename_i unnamed
      rw [← Except.error.inj failed]
      exact .missingRoot unnamed
    · rename_i root named
      split at failed
      · rename_i absent
        rw [← Except.error.inj failed]
        refine .unknownRoot named fun known => ?_
        rw [(holds.contains_decision root).mpr known] at absent
        cases absent
      · rename_i present
        have known : HasDecision calls root :=
          (holds.contains_decision root).mp (by simpa using present)
        split at failed
        · rename_i fault found
          rw [← Except.error.inj failed]
          obtain ⟨id, node, under, faulty, first⟩ := (holds.firstFault_iff fault).mp found
          exact .node named known under faulty first
        · cases failed
  · intro fault
    cases fault with
    | missingRoot unnamed => rw [unnamed]
    | unknownRoot named unknown =>
      have absent := mt (holds.contains_decision _).mp unknown
      simp [named, absent]
    | node named known found fault first =>
      have contained := (holds.contains_decision _).mpr known
      have told := (holds.firstFault_iff error).mpr ⟨_, _, found, fault, first⟩
      simp [named, contained, told]

end Checks

/-- Whatever calls are made in whatever order, freezing succeeds just when the root that was named
last is a decision node and everything in the decision nodes that has to lead to a node does. Then
the registry has that root, and under each id the node that was first registered there. If freezing
fails, the fault of the root or else the first one in id order is told. Calls are refused just when
their id is taken, and nothing would be different without those that are. -/
theorem build_exact (calls : List Call) :
    ((∃ registry, (attemptAll calls).build = .ok registry) ↔
      ∃ root, lastRoot? calls = some root ∧ HasDecision calls root ∧
        ∀ id node, firstDecision? calls id = some node → Resolves calls node) ∧
    (∀ registry, (attemptAll calls).build = .ok registry →
      lastRoot? calls = some registry.root ∧
        ∀ id, registry.dataFlow? id = firstDataFlow? calls id ∧
          registry.decision? id = firstDecision? calls id) ∧
    (∀ error, (attemptAll calls).build = .error error ↔ FirstFault calls error) ∧
    ∀ before call after error, calls = before ++ call :: after →
      (call.perform (attemptAll before) = .error error ↔ Refused before call error) ∧
      (Refused before call error → attemptAll calls = attemptAll (before ++ after)) := by
  have holds := attemptAll_holds calls
  refine ⟨?_, ?_, holds.build_eq_error_iff, ?_⟩
  · simp only [holds.build_eq_ok_iff]
    constructor
    · rintro ⟨registry, root, named, known, resolve, -⟩
      exact ⟨root, named, known, resolve⟩
    · rintro ⟨root, named, known, resolve⟩
      exact ⟨_, root, named, known, resolve, rfl⟩
  · intro registry built
    obtain ⟨root, named, -, -, rfl⟩ := (holds.build_eq_ok_iff registry).mp built
    exact ⟨named, fun id => ⟨holds.dataFlow id, holds.decision id⟩⟩
  · intro before call after error split
    have refused := (attemptAll_holds before).perform_eq_error_iff call error
    refine ⟨refused, fun taken => ?_⟩
    have same : (attemptAll before).attempt call = attemptAll before := by
      rw [attempt, refused.mpr taken]
    rw [split, attemptAll, List.foldl_append, List.foldl_cons]
    change List.foldl attempt ((attemptAll before).attempt call) after = _
    rw [same, attemptAll, attemptAll, List.foldl_append]

end Switchyard.RegistryBuilder
