import Switchyard.Proofs.Context.Sizes
set_option autoImplicit false

/-! The contexts that can come about, and what holds of all of them: their values equal themselves
and are held as they are stored, so that none of them is cut down a second time. Main statement:
`Context.Reachable.settled`. -/
namespace Switchyard

namespace Json

/-- A value that can come about: it equals itself, as all values do that can be written down, and 64
bits count the bytes of its text. -/
structure Regular (value : Json) : Prop where
  proper : value.Proper
  countable : value.size < UInt64.size

/-! The fields of an object are no larger than the object, and equal themselves if it does. -/

theorem proper_of_mem {fields : List (String × Json)} (proper : (Json.obj fields).Proper) :
    ∀ field ∈ fields, field.2.Proper := by
  change beqFields fields fields = true at proper
  induction fields with
  | nil => exact List.forall_mem_nil _
  | cons field rest ih =>
    obtain ⟨key, value⟩ := field
    rw [beqFields, Bool.and_eq_true, Bool.and_eq_true] at proper
    exact List.forall_mem_cons.mpr ⟨proper.1.2, ih proper.2⟩

theorem size_le_of_mem_more {fields : List (String × Json)} :
    ∀ field ∈ fields, field.2.size ≤ sizeMoreFields fields := by
  induction fields with
  | nil => exact List.forall_mem_nil _
  | cons field rest ih =>
    obtain ⟨key, value⟩ := field
    rw [sizeMoreFields]
    refine List.forall_mem_cons.mpr ⟨?_, fun later inside => ?_⟩
    · dsimp only
      omega
    · have bound := ih later inside
      omega

theorem size_le_of_mem {fields : List (String × Json)} :
    ∀ field ∈ fields, field.2.size ≤ (Json.obj fields).size := by
  intro field inside
  cases fields with
  | nil => cases inside
  | cons first rest =>
    obtain ⟨key, value⟩ := first
    rw [size, sizeFields]
    rcases List.mem_cons.mp inside with rfl | later
    · dsimp only
      omega
    · have bound := size_le_of_mem_more field later
      omega

theorem Regular.field {fields : List (String × Json)} (regular : (Json.obj fields).Regular) :
    ∀ field ∈ fields, field.2.Regular := fun field inside =>
  ⟨proper_of_mem regular.proper field inside,
    Nat.lt_of_le_of_lt (size_le_of_mem field inside) regular.countable⟩

end Json

namespace Context

/-- The contexts that can come about from regular values. -/
inductive Reachable : Context → Prop
  | new (correlationId : String) : Reachable (new correlationId)
  | ofRequest (correlationId : String) {input : Json} {caller : Dict Json}
      (inInput : input.Regular) (inCaller : ∀ entry ∈ caller.entries, entry.2.Regular) :
      Reachable (ofRequest correlationId input caller)
  | set {context : Context} (before : Reachable context) (key : String) {value : Json}
      (added : value.Regular) : Reachable (context.set key value)
  | merge {context : Context} (before : Reachable context) {outputs : Dict Json}
      (added : ∀ entry ∈ outputs.entries, entry.2.Regular) : Reachable (context.merge outputs)
  | remove {context : Context} (before : Reachable context) (key : String) :
      Reachable (context.remove key)

/-- Every value equals itself and would be stored as it is. -/
structure Settled (context : Context) : Prop where
  proper : context.Proper
  stored : ∀ key value, context.get? key = some value → Context.stored value = value

/-- Storing cuts a value down only once: the marker of a size that 64 bits can count is small. -/
theorem stored_stored {value : Json} (countable : value.size < UInt64.size) :
    stored (stored value) = stored value := by
  by_cases small : value.size ≤ sizeLimit
  · rw [stored_of_small small, stored_of_small small]
  · have room : UInt64.size ≤ 10 ^ markerRoom := calc
      UInt64.size ≤ 10 ^ 20 := by decide
      _ ≤ 10 ^ markerRoom := Nat.pow_le_pow_right (by decide) (by decide)
    have fits : (truncationMarker value.size).size ≤ sizeLimit :=
      (size_truncationMarker_le_iff value.size).mpr (Nat.lt_of_lt_of_le countable room)
    rw [stored_of_large (Nat.not_le.mp small)]
    exact stored_of_small fits

section Settled

variable {context : Context}

theorem settled_new (correlationId : String) : (new correlationId).Settled := by
  constructor <;> intro key value found <;> cases found

theorem Settled.set (settled : context.Settled) (key : String) {value : Json}
    (added : value.Regular) : (context.set key value).Settled where
  proper := settled.proper.set key added.proper
  stored := forall_get?_set settled.stored key (stored_stored added.countable)

theorem Settled.setAll (settled : context.Settled) {entries : List (String × Json)}
    (added : ∀ entry ∈ entries, entry.2.Regular) : (context.setAll entries).Settled where
  proper := settled.proper.setAll fun entry inside => (added entry inside).proper
  stored := forall_get?_setAll settled.stored fun entry inside =>
    stored_stored (added entry inside).countable

theorem Settled.remove (settled : context.Settled) (key : String) :
    (context.remove key).Settled where
  proper := settled.proper.remove key
  stored := forall_get?_remove settled.stored key

theorem regular_inputEntries {input : Json} (regular : input.Regular) :
    ∀ entry ∈ inputEntries input, entry.2.Regular := by
  cases input with
  | obj fields =>
    exact fun entry inside => regular.field entry (Dict.mem_of_mem_ofList inside)
  | null => exact List.forall_mem_nil _
  | bool | int | float | str | arr => exact List.forall_mem_singleton.mpr regular

theorem Reachable.settled (reachable : context.Reachable) : context.Settled := by
  induction reachable with
  | new correlationId => exact settled_new correlationId
  | ofRequest correlationId inInput inCaller =>
    have said := (settled_new correlationId).setAll (regular_inputEntries inInput)
    exact said.setAll fun entry inside => inCaller entry (List.mem_filter.mp inside).1
  | set before key added ih => exact ih.set key added
  | merge before added ih => exact ih.setAll added
  | remove before key ih => exact ih.remove key

end Settled

end Context

end Switchyard
