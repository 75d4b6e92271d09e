import Switchyard.Proofs.Context.Values
import Switchyard.Proofs.Decimal.Size
set_option autoImplicit false

/-! How large the values of a context are. A value that is too large is replaced by a marker, and
the marker itself is within the limit as long as it has room for the size that it tells: for more
than a million digits, so for every size that a machine can count. Main statement:
`Context.fits_stored`; the lemmas after it carry the bound through everything that is done to a
context. -/
namespace Switchyard

namespace Context

/-- The digits of a size for which a marker has room. -/
def markerRoom : Nat := 1048539

theorem size_truncationMarker (size : Nat) :
    (truncationMarker size).size = 37 + (Nat.toDigits 10 size).length := by
  have sizeKey : Json.quotedSize "_original_size" = 16 := by decide
  have flagKey : Json.quotedSize "_truncated" = 12 := by decide
  have digits : (toString (size : Int)).utf8ByteSize = (Nat.toDigits 10 size).length :=
    Decimal.utf8ByteSize_repr size
  simp only [truncationMarker, Json.size, Json.sizeFields, Json.sizeMoreFields, sizeKey, flagKey,
    digits]
  simp only [if_true]
  omega

theorem size_truncationMarker_le_iff (size : Nat) :
    (truncationMarker size).size ≤ sizeLimit ↔ size < 10 ^ markerRoom := by
  have room := Nat.length_toDigits_le_iff (b := 10) (n := size) (k := markerRoom) (by decide)
    (by decide)
  rw [size_truncationMarker, ← room]
  unfold sizeLimit markerRoom
  omega

/-- A value is as large as a context holds it: within the limit. The one exception is the marker of
a value of so many bytes that it takes more than a million digits to count them. -/
def Fits (value : Json) : Prop :=
  value.size ≤ sizeLimit ∨
    ∃ original, 10 ^ markerRoom ≤ original ∧ value = truncationMarker original

theorem stored_of_small {value : Json} (small : value.size ≤ sizeLimit) : stored value = value :=
  if_neg (Nat.not_lt.mpr small)

theorem stored_of_large {value : Json} (large : sizeLimit < value.size) :
    stored value = truncationMarker value.size :=
  if_pos large

theorem fits_stored (value : Json) : Fits (stored value) := by
  by_cases small : value.size ≤ sizeLimit
  · rw [stored_of_small small]
    exact Or.inl small
  · rw [stored_of_large (Nat.not_le.mp small)]
    by_cases countable : value.size < 10 ^ markerRoom
    · exact Or.inl ((size_truncationMarker_le_iff value.size).mpr countable)
    · exact Or.inr ⟨value.size, Nat.not_lt.mp countable, rfl⟩

def Within (context : Context) : Prop :=
  ∀ key value, context.get? key = some value → Fits value

section Within

variable {context : Context}

theorem within_new (correlationId : String) : (new correlationId).Within := by
  intro key value found
  cases found

theorem Within.set (within : context.Within) (key : String) (value : Json) :
    (context.set key value).Within :=
  forall_get?_set within key (fits_stored value)

theorem Within.setAll (within : context.Within) (entries : List (String × Json)) :
    (context.setAll entries).Within :=
  forall_get?_setAll within fun entry _ => fits_stored entry.2

theorem Within.remove (within : context.Within) (key : String) : (context.remove key).Within :=
  forall_get?_remove within key

theorem within_ofRequest (correlationId : String) (input : Json) (caller : Dict Json) :
    (ofRequest correlationId input caller).Within :=
  ((within_new correlationId).setAll _).setAll _

end Within

end Context

end Switchyard
