import Switchyard.Proofs.Execution.Outcome
import Switchyard.Proofs.Registry.Accepted
set_option autoImplicit false

/-! The links of a registry: that they all lead somewhere, the ways along them from one node to
another, and the order in which a tree is read. -/
namespace Switchyard.Registry

structure Closed (registry : Registry) : Prop where
  root : ∃ node, registry.decision? registry.root = some node
  links : ∀ {id : String} {node : DecisionNode}, registry.decision? id = some node →
    ∀ target ∈ node.targets, ∃ next, registry.decision? target = some next

theorem Accepted.closed {registry : Registry} (accepted : registry.Accepted) :
    registry.Closed := by
  obtain ⟨builder, -, built⟩ := accepted
  unfold RegistryBuilder.build at built
  split at built
  · cases built
  · rename_i root _
    split at built
    · cases built
    · rename_i rootKnown
      split at built
      · cases built
      · rename_i sound
        rw [← Except.ok.inj built]
        have noFault : ∀ node ∈ builder.decision.values, builder.nodeFault? node = none :=
          List.findSome?_eq_none_iff.mp sound
        refine ⟨?_, fun {id node} found target inside => ?_⟩
        · have contained : builder.decision.contains root = true := by simpa using rootKnown
          exact (Dict.contains_iff _ _).mp contained
        · have registered : node ∈ builder.decision.values :=
            List.mem_map.mpr ⟨(id, node), (Dict.get?_eq_some_iff _ _ _).mp found, rfl⟩
          obtain ⟨link, linked, rfl⟩ := List.mem_map.mp inside
          have noDangling : builder.danglingLink? node = none :=
            (Option.or_eq_none_iff.mp (noFault node registered)).1
          have resolves := List.find?_eq_none.mp (Option.map_eq_none_iff.mp noDangling) link linked
          have contained : builder.decision.contains link.2 = true := by simpa using resolves
          exact (Dict.contains_iff _ _).mp contained

/-! Ways along links. -/

section Follow

variable (registry : Registry)

/-- Where a way leads that takes, from one node to the next, the link at the given position. -/
def follow (id : String) : List Nat → Option String
  | [] => some id
  | position :: path =>
    match registry.decision? id with
    | none => none
    | some node =>
      match node.targets[position]? with
      | none => none
      | some target => follow target path

variable {registry}

theorem follow_cons {id target : String} {node : DecisionNode} {position : Nat}
    (known : registry.decision? id = some node) (linked : node.targets[position]? = some target)
    (path : List Nat) :
    registry.follow id (position :: path) = registry.follow target path := by
  simp only [follow, known, linked]

theorem of_follow_cons {id last : String} {position : Nat} {path : List Nat}
    (led : registry.follow id (position :: path) = some last) :
    ∃ node target, registry.decision? id = some node ∧
      node.targets[position]? = some target ∧ registry.follow target path = some last := by
  unfold follow at led
  split at led
  · cases led
  · rename_i node known
    split at led
    · cases led
    · rename_i target linked
      exact ⟨node, target, known, linked, led⟩

theorem follow_append {id middle : String} {path : List Nat}
    (led : registry.follow id path = some middle) (further : List Nat) :
    registry.follow id (path ++ further) = registry.follow middle further := by
  induction path generalizing id with
  | nil =>
    rw [List.nil_append, Option.some.inj led]
  | cons position path ih =>
    obtain ⟨node, target, known, linked, rest⟩ := of_follow_cons led
    rw [List.cons_append, follow_cons known linked]
    exact ih rest

theorem follow_concat {id last target : String} {path : List Nat} {node : DecisionNode}
    {position : Nat} (led : registry.follow id path = some last)
    (known : registry.decision? last = some node)
    (linked : node.targets[position]? = some target) :
    registry.follow id (path ++ [position]) = some target := by
  rw [follow_append led, follow_cons known linked]
  rfl

end Follow

/-- Every node is reached from the root in at most one way. -/
def IsTree (registry : Registry) : Prop :=
  ∀ (id : String) (first second : List Nat), registry.follow registry.root first = some id →
    registry.follow registry.root second = some id → first = second

/-! Reading a tree. -/

/-- The order in which nodes are read from these on: each of them before everything that it links
to, and that before the next of them. -/
inductive Preorder (registry : Registry) : List String → List String → Prop
  | nil : Preorder registry [] []
  | cons {id : String} {node : DecisionNode} {rest below beside : List String}
      (known : registry.decision? id = some node) (down : Preorder registry node.targets below)
      (across : Preorder registry rest beside) :
      Preorder registry (id :: rest) (id :: (below ++ beside))

namespace Preorder

variable {registry : Registry}

theorem of_append {first later order : List String}
    (read : Preorder registry (first ++ later) order) :
    ∃ left right, order = left ++ right ∧ Preorder registry first left ∧
      Preorder registry later right := by
  induction first generalizing order with
  | nil => exact ⟨[], order, rfl, .nil, read⟩
  | cons id first ih =>
    cases read with
    | cons known down across =>
      obtain ⟨left, right, rfl, readLeft, readRight⟩ := ih across
      refine ⟨_, right, ?_, .cons known down readLeft, readRight⟩
      rw [List.cons_append, List.append_assoc]

/-- Just the nodes are read that some way leads to. -/
theorem mem_iff {ids order : List String} (read : Preorder registry ids order) (id : String) :
    id ∈ order ↔ ∃ start ∈ ids, ∃ path, registry.follow start path = some id := by
  induction read with
  | nil => simp
  | @cons first node rest below beside known down across downIh acrossIh =>
    rw [List.mem_cons, List.mem_append, downIh, acrossIh]
    constructor
    · rintro (rfl | ⟨target, linked, path, led⟩ | ⟨start, inside, path, led⟩)
      · exact ⟨id, List.mem_cons_self, [], rfl⟩
      · obtain ⟨position, found⟩ := List.mem_iff_getElem?.mp linked
        exact ⟨first, List.mem_cons_self, position :: path,
          (follow_cons known found path).trans led⟩
      · exact ⟨start, List.mem_cons_of_mem _ inside, path, led⟩
    · rintro ⟨start, inside, path, led⟩
      rcases List.mem_cons.mp inside with rfl | later
      · cases path with
        | nil => exact Or.inl (Option.some.inj led).symm
        | cons position path =>
          obtain ⟨same, target, found, linked, rest⟩ := of_follow_cons led
          obtain rfl : node = same := Option.some.inj (known.symm.trans found)
          exact Or.inr (Or.inl ⟨target, List.mem_of_getElem? linked, path, rest⟩)
      · exact Or.inr (Or.inr ⟨start, later, path, led⟩)

end Preorder

end Switchyard.Registry
