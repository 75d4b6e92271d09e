import Mathlib.Data.Fintype.EquivFin
import Mathlib.Data.Fintype.Sets
import Mathlib.Order.WellFounded
import Switchyard.Proofs.Registry.Links
set_option autoImplicit false

/-! Cycles among decision nodes. Pruning drops, round after round, the nodes that lead to none of
those that are left. Read backwards, the rounds put the nodes in an order in which every link leads
onward; and what is never dropped leads on for ever, which among finitely many nodes means that some
node leads back to itself. Main statement: `Registry.hasCycle_exact`. -/
namespace Switchyard

def LeadsTo (nodes : Dict DecisionNode) (id target : String) : Prop :=
  ∃ node, nodes.get? id = some node ∧ ∃ link ∈ node.links, link.2 = target

section Pruning

variable {nodes : Dict DecisionNode} {ids : List String}

theorem mem_continuing_iff (id : String) :
    id ∈ continuing nodes ids ↔ id ∈ ids ∧ ∃ target ∈ ids, LeadsTo nodes id target := by
  rw [continuing, List.mem_filter]
  refine and_congr_right fun _ => ?_
  cases found : nodes.get? id with
  | none => simp [LeadsTo, found]
  | some node =>
    simp only [Option.any_some, leadsInto, List.any_eq_true, List.contains_iff_mem, LeadsTo, found,
      Option.some.injEq, exists_eq_left']
    constructor
    · rintro ⟨link, linked, inside⟩
      exact ⟨link.2, inside, link, linked, rfl⟩
    · rintro ⟨target, inside, link, linked, rfl⟩
      exact ⟨link, linked, inside⟩

/-- As many rounds as there are ids leave nothing more to drop. -/
theorem continuing_prune {rounds : Nat} (enough : ids.length ≤ rounds) :
    continuing nodes (prune nodes rounds ids) = prune nodes rounds ids := by
  induction rounds generalizing ids with
  | zero =>
    rw [List.eq_nil_of_length_eq_zero (Nat.le_zero.mp enough)]
    rfl
  | succ rounds ih =>
    have fewer : (continuing nodes ids).Sublist ids := List.filter_sublist
    rw [prune]
    split
    · rename_i same
      exact fewer.eq_of_length same
    · rename_i dropped
      have := fewer.length_le
      exact ih (by omega)

/-- No link leads from a node to itself or to one that is listed before it. -/
structure Onward (nodes : Dict DecisionNode) (order : List String) : Prop where
  noSelfLink : ∀ id ∈ order, ¬ LeadsTo nodes id id
  noLinkBack : order.Pairwise fun earlier later => ¬ LeadsTo nodes later earlier

theorem Onward.append {order last : List String} (onward : Onward nodes order)
    (ends : ∀ id ∈ last, ∀ target ∈ order ++ last, ¬ LeadsTo nodes id target) :
    Onward nodes (order ++ last) := by
  constructor
  · intro id inside
    rcases List.mem_append.mp inside with before | after
    · exact onward.noSelfLink id before
    · exact ends id after id inside
  · refine List.pairwise_append.mpr ⟨onward.noLinkBack, ?_, fun earlier before later after =>
      ends later after earlier (List.mem_append_left _ before)⟩
    exact List.pairwise_of_forall_mem_list fun earlier before later after =>
      ends later after earlier (List.mem_append_right _ before)

/-- The ids whose node leads to none of them: those that a round of pruning drops. -/
def ending (nodes : Dict DecisionNode) (ids : List String) : List String :=
  ids.filter fun id => !(nodes.get? id).any fun node => leadsInto node ids

/-- If all is dropped in the end, the nodes dropped first can be listed last. -/
theorem exists_onward {rounds : Nat} (dropped : prune nodes rounds ids = []) :
    ∃ order : List String, order.Perm ids ∧ Onward nodes order := by
  induction rounds generalizing ids with
  | zero => exact ⟨[], by rw [← dropped]; rfl, nofun, .nil⟩
  | succ rounds ih =>
    rw [prune] at dropped
    split at dropped
    · exact ⟨[], by rw [dropped], nofun, .nil⟩
    · obtain ⟨order, same, onward⟩ := ih dropped
      have whole : (order ++ ending nodes ids).Perm ids :=
        (same.append_right _).trans (List.filter_append_perm _ ids)
      refine ⟨order ++ ending nodes ids, whole,
        onward.append fun id inside target known leads => ?_⟩
      obtain ⟨among, stops⟩ := List.mem_filter.mp inside
      have continues := (mem_continuing_iff id).mpr ⟨among, target, whole.mem_iff.mp known, leads⟩
      rw [(List.mem_filter.mp continues).2] at stops
      cases stops

theorem Onward.idxOf_lt {order : List String} (onward : Onward nodes order) {id target : String}
    (listed : id ∈ order) (leads : LeadsTo nodes id target) :
    order.idxOf id < order.idxOf target := by
  by_contra notBefore
  have inside : order.idxOf target < order.length :=
    (Nat.le_of_not_lt notBefore).trans_lt (List.idxOf_lt_length_of_mem listed)
  have isTarget : order[order.idxOf target] = target := List.getElem_idxOf inside
  rcases Nat.lt_or_eq_of_le (Nat.le_of_not_lt notBefore) with before | same
  · have back := List.pairwise_iff_getElem.mp onward.noLinkBack _ _ inside
      (List.idxOf_lt_length_of_mem listed) before
    rw [isTarget, List.getElem_idxOf] at back
    exact back leads
  · have equal : id = target := by
      rw [← isTarget, ← List.getElem_idxOf (List.idxOf_lt_length_of_mem listed)]
      congr 1
      exact same.symm
    exact onward.noSelfLink id listed (equal ▸ leads)

/-- Where positions grow along every link, no chain of links leads back. -/
theorem not_leads_back {order : List String}
    (grows : ∀ id target, LeadsTo nodes id target → order.idxOf id < order.idxOf target)
    (id : String) : ¬ Relation.TransGen (LeadsTo nodes) id id := by
  have further {first last : String} (chain : Relation.TransGen (LeadsTo nodes) first last) :
      order.idxOf first < order.idxOf last := by
    induction chain with
    | single leads => exact grows _ _ leads
    | tail _ leads before => exact before.trans (grows _ _ leads)
  exact fun chain => Nat.lt_irrefl _ (further chain)

/-- Among these nodes, the later one is come to from the earlier one along links. -/
def ReachedFrom (nodes : Dict DecisionNode) (ids : List String)
    (later earlier : {id // id ∈ ids}) : Prop :=
  Relation.TransGen (LeadsTo nodes) earlier.1 later.1

/-- Nodes all of which lead on to one another are none, unless one leads back to itself. -/
theorem eq_nil_of_not_leads_back (settled : continuing nodes ids = ids)
    (forth : ∀ id, ¬ Relation.TransGen (LeadsTo nodes) id id) : ids = [] := by
  by_contra nonempty
  have : IsTrans _ (ReachedFrom nodes ids) := ⟨fun _ _ _ second first => first.trans second⟩
  have : Std.Irrefl (ReachedFrom nodes ids) := ⟨fun id => forth id.1⟩
  have wellFounded := Finite.wellFounded_of_trans_of_irrefl (ReachedFrom nodes ids)
  obtain ⟨id, inside⟩ := List.exists_mem_of_ne_nil ids nonempty
  obtain ⟨last, -, isLast⟩ := wellFounded.has_min Set.univ ⟨⟨id, inside⟩, trivial⟩
  have continues : last.1 ∈ continuing nodes ids := settled.symm ▸ last.2
  obtain ⟨-, target, known, leads⟩ := (mem_continuing_iff last.1).mp continues
  exact isLast ⟨target, known⟩ trivial (.single leads)

end Pruning

namespace Registry

variable {registry : Registry}

theorem Accepted.hasCycle_eq (accepted : registry.Accepted) :
    registry.hasCycle = Switchyard.hasCycle registry.decision := by
  obtain ⟨builder, -, built⟩ := accepted
  unfold RegistryBuilder.build at built
  split at built
  · cases built
  · split at built
    · cases built
    · split at built
      · cases built
      · rw [← Except.ok.inj built]

theorem Accepted.mem_keys_of_leadsTo (accepted : registry.Accepted) {id target : String}
    (leads : LeadsTo registry.decision id target) :
    id ∈ registry.decision.keys ∧ target ∈ registry.decision.keys := by
  obtain ⟨node, found, link, linked, rfl⟩ := leads
  obtain ⟨next, known⟩ := accepted.closed.links found link.2 (List.mem_map_of_mem linked)
  rw [Dict.mem_keys_iff, Dict.mem_keys_iff, Dict.contains_iff, Dict.contains_iff]
  exact ⟨⟨node, found⟩, ⟨next, known⟩⟩

/-- The report of a registry that has been built is exact: it tells of a cycle just when links lead
from some node back to it, in one step or in several, and it tells of none just when the nodes can
be listed in an order in which every link leads to a later one. -/
theorem hasCycle_exact (accepted : registry.Accepted) :
    (registry.hasCycle = true ↔ ∃ id ∈ registry.decision.keys,
      Relation.TransGen (LeadsTo registry.decision) id id) ∧
    (registry.hasCycle = false ↔ ∃ order : List String, order.Perm registry.decision.keys ∧
      ∀ id target, LeadsTo registry.decision id target →
        target ∈ order ∧ order.idxOf id < order.idxOf target) := by
  have settled : continuing registry.decision
      (prune registry.decision registry.decision.size registry.decision.keys) = _ :=
    continuing_prune (Nat.le_of_eq (Dict.length_keys _))
  have noneLeft : registry.hasCycle = false ↔
      prune registry.decision registry.decision.size registry.decision.keys = [] := by
    rw [accepted.hasCycle_eq, Switchyard.hasCycle, Bool.not_eq_false', List.isEmpty_iff]
  have toOrder (denied : registry.hasCycle = false) : ∃ order : List String,
      order.Perm registry.decision.keys ∧ ∀ id target, LeadsTo registry.decision id target →
        target ∈ order ∧ order.idxOf id < order.idxOf target := by
    obtain ⟨order, same, onward⟩ := exists_onward (noneLeft.mp denied)
    refine ⟨order, same, fun id target leads => ?_⟩
    obtain ⟨known, targetKnown⟩ := accepted.mem_keys_of_leadsTo leads
    exact ⟨same.mem_iff.mpr targetKnown, onward.idxOf_lt (same.mem_iff.mpr known) leads⟩
  have ofForth (forth : ∀ id, ¬ Relation.TransGen (LeadsTo registry.decision) id id) :
      registry.hasCycle = false :=
    noneLeft.mpr (eq_nil_of_not_leads_back settled forth)
  constructor
  · constructor
    · intro cycle
      by_contra noCircle
      have forth (id : String) : ¬ Relation.TransGen (LeadsTo registry.decision) id id := by
        intro chain
        obtain ⟨_, leads, -⟩ := Relation.TransGen.head'_iff.mp chain
        exact noCircle ⟨id, (accepted.mem_keys_of_leadsTo leads).1, chain⟩
      rw [ofForth forth] at cycle
      cases cycle
    · rintro ⟨id, -, chain⟩
      by_contra notTold
      obtain ⟨order, -, onward⟩ := toOrder (Bool.eq_false_of_not_eq_true notTold)
      exact not_leads_back (fun id target leads => (onward id target leads).2) id chain
  · constructor
    · exact toOrder
    · rintro ⟨order, -, onward⟩
      exact ofForth (not_leads_back fun id target leads => (onward id target leads).2)

namespace Sample

/-- Two ways lead to the last node, one of them written down twice; the last node leads back to the
given ones. -/
def diamond (back : List String) : GraphDefinition where
  root := "start"
  decisionNodes := [
    { id := "start", behavior := .condition "" (some "left") none,
      children := ["right", "left"] },
    { id := "left", behavior := .capability ⟨.configure, "", []⟩, children := ["last"] },
    { id := "right", behavior := .capability ⟨.configure, "", []⟩, children := ["last"] },
    { id := "last", behavior := .capability ⟨.configure, "", []⟩, children := back }]

def holding (graph : GraphDefinition) : Registry where
  dataFlow := Dict.ofList (graph.dataFlowNodes.map fun node => (node.id, node))
  decision := Dict.ofList (graph.decisionNodes.map fun node => (node.id, node))
  root := graph.root
  hasCycle := Switchyard.hasCycle
    (Dict.ofList (graph.decisionNodes.map fun node => (node.id, node)))

end Sample

theorem diamond_hasCycle_exact :
    let diamond := Sample.holding (Sample.diamond [])
    let circle := Sample.holding (Sample.diamond ["start"])
    (diamond.Accepted ∧ ∃ order : List String, order.Perm diamond.decision.keys ∧
      ∀ id target, LeadsTo diamond.decision id target →
        target ∈ order ∧ order.idxOf id < order.idxOf target) ∧
    circle.Accepted ∧ ∃ id ∈ circle.decision.keys,
      Relation.TransGen (LeadsTo circle.decision) id id := by
  have diamond : (Sample.holding (Sample.diamond [])).Accepted :=
    @accepted_of_ofDefinition (Sample.diamond []) _ (by rfl)
  have circle : (Sample.holding (Sample.diamond ["start"])).Accepted :=
    @accepted_of_ofDefinition (Sample.diamond ["start"]) _ (by rfl)
  exact ⟨⟨diamond, (hasCycle_exact diamond).2.mp (by decide)⟩, circle,
    (hasCycle_exact circle).1.mp (by decide)⟩

end Registry

end Switchyard
