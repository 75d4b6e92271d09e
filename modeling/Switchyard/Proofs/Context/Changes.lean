import Switchyard.Proofs.Context.Reachable
set_option autoImplicit false

/-! The changes between two contexts. Whatever the two contexts, the changes hold what is new or
differs and nothing else, and merged into the earlier context they bring it to the later one. Main
statement: `Context.changesSince_difference`. -/
namespace Switchyard

namespace Context

section Changes

variable {before after : Context} {key : String} {value : Json}

theorem get?_changesSince_eq_some_iff :
    (after.changesSince before).get? key = some value ↔
      after.get? key = some value ∧
        ∀ old, before.get? key = some old → (old == value) = false := by
  rw [get?_changesSince, Option.filter_eq_some_iff]
  refine and_congr_right fun _ => ?_
  cases before.get? key with
  | none => simp
  | some old => simp

theorem get?_changesSince_eq_none_iff :
    (after.changesSince before).get? key = none ↔
      ∀ value, after.get? key = some value →
        ∃ old, before.get? key = some old ∧ (old == value) = true := by
  rw [get?_changesSince, Option.filter_eq_none_iff]
  refine forall_congr' fun value => forall_congr' fun _ => ?_
  cases before.get? key with
  | none => simp
  | some old => simp

theorem isEmpty_changesSince_iff :
    (after.changesSince before).isEmpty = true ↔
      ∀ key value, after.get? key = some value →
        ∃ old, before.get? key = some old ∧ (old == value) = true := by
  rw [Dict.isEmpty_iff]
  exact forall_congr' fun key => get?_changesSince_eq_none_iff

theorem get?_merge_changesSince (settled : after.Settled) (key : String) :
    (before.merge (after.changesSince before)).get? key =
      ((after.changesSince before).get? key).or (before.get? key) := by
  rw [get?_merge]
  cases change : (after.changesSince before).get? key with
  | none => rfl
  | some value =>
    have held := (get?_changesSince_eq_some_iff.mp change).1
    rw [Option.map_some, settled.stored key value held]

/-- Where there is no change the earlier value is as good as the later one. -/
theorem get?_merge_changesSince_rel (earlier : before.Settled) (later : after.Settled)
    (key : String) :
    Option.Rel (fun held value => (held == value) = true)
      ((before.merge (after.changesSince before)).get? key)
      ((after.get? key).or (before.get? key)) := by
  rw [get?_merge_changesSince later]
  cases change : (after.changesSince before).get? key with
  | some value =>
    have held := (get?_changesSince_eq_some_iff.mp change).1
    rw [held, Option.some_or]
    exact .some (later.proper key value held)
  | none =>
    rw [Option.none_or]
    cases held : after.get? key with
    | some value =>
      obtain ⟨old, found, same⟩ := get?_changesSince_eq_none_iff.mp change value held
      rw [found, Option.some_or]
      exact .some same
    | none =>
      rw [Option.none_or]
      cases found : before.get? key with
      | none => exact .none
      | some old => exact .some (earlier.proper key old found)

theorem values_merge_changesSince (earlier : before.Settled) (later : after.Settled)
    (nothingGone : ∀ key, before.contains key = true → after.contains key = true) :
    ((before.merge (after.changesSince before)).values == after.values) = true := by
  refine Json.beq_of_get? fun key => ?_
  change Option.Rel _ ((before.merge (after.changesSince before)).get? key) (after.get? key)
  have gives := get?_merge_changesSince_rel earlier later key
  cases held : after.get? key with
  | some value =>
    rw [held, Option.some_or] at gives
    exact gives
  | none =>
    have absent : before.get? key = none := by
      cases found : before.get? key with
      | none => rfl
      | some old =>
        have kept := nothingGone key ((before.values.contains_iff key).mpr ⟨old, found⟩)
        obtain ⟨value, impossible⟩ := (after.values.contains_iff key).mp kept
        cases held.symm.trans impossible
    rw [held, absent, Option.none_or] at gives
    exact gives

end Changes

/-- However two contexts have come about, merging the changes between them into the earlier one gives
under every key what the later one holds there, and where that holds nothing what the earlier one
does. No change tells of a value that is the same in both. There are no changes exactly if every value
of the later context has an equal one in the earlier. If nothing was taken away in between, the merge
gives exactly the values of the later context. -/
theorem changesSince_difference {before after : Context} (earlier : before.Reachable)
    (later : after.Reachable) :
    let merged := before.merge (after.changesSince before)
    (∀ key, Option.Rel (fun held value => (held == value) = true)
      (merged.get? key) ((after.get? key).or (before.get? key))) ∧
    (∀ key value, (after.changesSince before).get? key = some value →
      after.get? key = some value ∧
        ∀ old, before.get? key = some old → (old == value) = false) ∧
    ((after.changesSince before).isEmpty = true ↔
      ∀ key value, after.get? key = some value →
        ∃ old, before.get? key = some old ∧ (old == value) = true) ∧
    ((∀ key, before.contains key = true → after.contains key = true) →
      (merged.values == after.values) = true) := by
  intro merged
  refine ⟨get?_merge_changesSince_rel earlier.settled later.settled, ?_,
    isEmpty_changesSince_iff, values_merge_changesSince earlier.settled later.settled⟩
  intro key value change
  exact get?_changesSince_eq_some_iff.mp change

/-- A whole number differs from a fractional one. -/
example : (Json.int 1 == Json.float 1.0) = false := rfl

namespace Sample

theorem regular_int {number : Int} (short : (Json.int number).size < 20) :
    (Json.int number).Regular :=
  ⟨beq_self_eq_true number, Nat.lt_trans short (by decide)⟩

def first : Context := ((new "r").set "a" (.int 1)).set "b" (.int 2)

def outputs : Dict Json := Dict.ofList [("b", .int 3), ("c", .int 4)]

theorem first_reachable : first.Reachable :=
  ((Reachable.new "r").set "a" (regular_int (by decide))).set "b" (regular_int (by decide))

theorem second_reachable : (first.merge outputs).Reachable :=
  first_reachable.merge (List.forall_mem_cons.mpr ⟨regular_int (by decide),
    List.forall_mem_singleton.mpr (regular_int (by decide))⟩)

end Sample

/-- The changes between the two contexts lead from the first to the second. -/
theorem sample_changes :
    ((Sample.first.merge Sample.outputs).changesSince Sample.first).keys = ["b", "c"] ∧
      ((Sample.first.merge ((Sample.first.merge Sample.outputs).changesSince
        Sample.first)).values == (Sample.first.merge Sample.outputs).values) = true := by
  obtain ⟨-, -, -, leads⟩ := changesSince_difference Sample.first_reachable Sample.second_reachable
  refine ⟨by decide, leads fun key held => ?_⟩
  obtain ⟨old, found⟩ := (Sample.first.values.contains_iff key).mp held
  have kept : ((Sample.first.merge Sample.outputs).get? key).isSome = true := by
    rw [get?_merge, show Sample.first.get? key = some old from found, Option.isSome_or]
    exact Bool.or_true _
  exact kept

end Context

end Switchyard
