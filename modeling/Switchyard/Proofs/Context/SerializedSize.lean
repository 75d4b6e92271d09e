import Switchyard.Proofs.Context.Sizes
set_option autoImplicit false

/-! How large a context is as one text. Every entry takes up its own bytes wherever its key stands
among the others, so that a write adds what it stores and takes away what it replaces. Main
statements: `Context.serializedSize_additive`, and `Context.serializedSize_merge` for many entries
at once. -/
namespace Switchyard

namespace Dict

variable {α : Type} (dict : Dict α) (weight : String × α → Nat)

/-- The weights of all entries together. -/
def total : Nat := (dict.entries.map weight).sum

/-- The weight of the entry under a key, nothing if there is none. -/
def weightAt (key : String) : Nat := (dict.get? key).elim 0 fun value => weight (key, value)

variable {dict}

theorem insert_eq_self {key : String} {value : α} (held : dict.get? key = some value) :
    dict.insert key value = dict := by
  refine ext_get? fun other => ?_
  rw [get?_insert]
  split
  · rename_i same
    rw [← same, held]
  · rfl

theorem erase_eq_self {key : String} (absent : dict.get? key = none) : dict.erase key = dict := by
  refine ext_get? fun other => ?_
  rw [get?_erase]
  split
  · rename_i same
    rw [← same, absent]
  · rfl

variable (dict)

theorem insert_erase (key : String) (value : α) :
    (dict.erase key).insert key value = dict.insert key value := by
  refine ext_get? fun other => ?_
  rw [get?_insert, get?_insert, get?_erase]
  split <;> rfl

theorem erase_insert (key : String) (value : α) :
    (dict.insert key value).erase key = dict.erase key := by
  refine ext_get? fun other => ?_
  rw [get?_erase, get?_erase, get?_insert]
  split <;> rfl

/-- Wherever its place is, an entry adds its own weight and takes away that of one it replaces. -/
theorem sum_place {list : List (String × α)}
    (ordered : list.Pairwise fun first second => first.1 < second.1) (key : String) (value : α) :
    ((place key value list).map weight).sum +
        ((lookup key list).elim 0 fun held => weight (key, held)) =
      (list.map weight).sum + weight (key, value) := by
  induction list with
  | nil => simp [place, lookup]
  | cons first rest ih =>
    obtain ⟨here, old⟩ := first
    obtain ⟨above, tail⟩ := List.pairwise_cons.mp ordered
    rw [place]
    split
    · rename_i below
      -- In front of a greater key nothing is replaced: the keys after that are greater still.
      have absent : lookup key ((here, old) :: rest) = none :=
        lookup_eq_none_of_below (List.forall_mem_cons.mpr
          ⟨below, fun entry inside => String.lt_trans below (above entry inside)⟩)
      rw [absent, Option.elim_none, Nat.add_zero, List.map_cons, List.sum_cons, Nat.add_comm]
    · split
      · rename_i same
        subst same
        rw [lookup, if_pos rfl, List.map_cons, List.map_cons, List.sum_cons, List.sum_cons,
          Option.elim_some]
        omega
      · rename_i different
        have later := ih tail
        rw [lookup, if_neg (Ne.symm different), List.map_cons, List.map_cons, List.sum_cons,
          List.sum_cons]
        omega

theorem total_insert (key : String) (value : α) :
    (dict.insert key value).total weight + dict.weightAt weight key =
      dict.total weight + weight (key, value) :=
  sum_place weight dict.ordered key value

theorem weightAt_insert_of_ne {key other : String} (different : key ≠ other) (value : α) :
    (dict.insert key value).weightAt weight other = dict.weightAt weight other := by
  rw [weightAt, get?_insert_of_ne dict different, weightAt]

theorem isEmpty_eq_false_of_get? {dict : Dict α} {key : String} {value : α}
    (held : dict.get? key = some value) : dict.isEmpty = false := by
  refine Bool.eq_false_iff.mpr fun empty => ?_
  rw [(isEmpty_iff dict).mp empty key] at held
  cases held

theorem isEmpty_insert (key : String) (value : α) : (dict.insert key value).isEmpty = false :=
  isEmpty_eq_false_of_get? (dict.get?_insert_self key value)

end Dict

namespace Json

/-- The bytes of a field in the text of an object: its key and its value, the colon between them,
and the comma or the brace behind them. -/
def fieldSize : String × Json → Nat
  | (key, value) => quotedSize key + value.size + 2

theorem sizeMoreFields_eq_sum (fields : List (String × Json)) :
    sizeMoreFields fields = (fields.map fieldSize).sum := by
  induction fields with
  | nil => rfl
  | cons field rest ih =>
    obtain ⟨key, value⟩ := field
    rw [sizeMoreFields, ih, List.map_cons, List.sum_cons, fieldSize]
    omega

theorem size_ofDict {dict : Dict Json} (some : dict.isEmpty = false) :
    (ofDict dict).size = 1 + dict.total fieldSize := by
  rw [ofDict, Dict.total]
  cases found : dict.entries with
  | nil =>
    rw [Dict.isEmpty, found] at some
    cases some
  | cons field rest =>
    obtain ⟨key, value⟩ := field
    rw [size, sizeFields, sizeMoreFields_eq_sum, List.map_cons, List.sum_cons, fieldSize]
    omega

theorem size_ofDict_of_isEmpty {dict : Dict Json} (none : dict.isEmpty = true) :
    (ofDict dict).size = 2 := by
  rw [ofDict, List.isEmpty_iff.mp none]
  rfl

section Insert

variable {dict : Dict Json} {key : String}

theorem size_ofDict_lt_insert (absent : dict.get? key = none) (value : Json) :
    (ofDict dict).size < (ofDict (dict.insert key value)).size := by
  have grown := dict.total_insert fieldSize key value
  rw [Dict.weightAt, absent, Option.elim_none, Nat.add_zero, fieldSize] at grown
  rw [size_ofDict (dict.isEmpty_insert key value)]
  cases empty : dict.isEmpty with
  | true =>
    rw [size_ofDict_of_isEmpty empty]
    omega
  | false =>
    rw [size_ofDict empty]
    omega

theorem size_ofDict_insert {old : Json} (held : dict.get? key = some old) (value : Json) :
    (ofDict (dict.insert key value)).size + old.size = (ofDict dict).size + value.size := by
  have changed := dict.total_insert fieldSize key value
  rw [Dict.weightAt, held, Option.elim_some, fieldSize, fieldSize] at changed
  rw [size_ofDict (dict.isEmpty_insert key value),
    size_ofDict (Dict.isEmpty_eq_false_of_get? held)]
  omega

theorem size_ofDict_erase_lt {old : Json} (held : dict.get? key = some old) :
    (ofDict (dict.erase key)).size < (ofDict dict).size := by
  have gone : (dict.erase key).get? key = none := by rw [Dict.get?_erase, if_pos rfl]
  have grown := size_ofDict_lt_insert gone old
  rwa [Dict.insert_erase, Dict.insert_eq_self held] at grown

end Insert

end Json

namespace Context

variable (context : Context)

/-- What is replaced is what the context held before all of the entries were set. -/
theorem total_setAll {entries : List (String × Json)} (distinct : Dict.Distinct entries) :
    (context.setAll entries).values.total Json.fieldSize +
        ((entries.map (·.1)).map (context.values.weightAt Json.fieldSize)).sum =
      context.values.total Json.fieldSize +
        (entries.map fun entry => Json.fieldSize (entry.1, stored entry.2)).sum := by
  induction entries generalizing context with
  | nil => rfl
  | cons entry rest ih =>
    obtain ⟨key, value⟩ := entry
    obtain ⟨once, tail⟩ := List.nodup_cons.mp distinct
    have first := context.values.total_insert Json.fieldSize key (stored value)
    have later := ih (context.set key value) tail
    have untouched : ∀ other ∈ rest.map (·.1),
        (context.set key value).values.weightAt Json.fieldSize other =
          context.values.weightAt Json.fieldSize other := by
      intro other inside
      have different : key ≠ other := fun same => once (same ▸ inside)
      exact context.values.weightAt_insert_of_ne Json.fieldSize different (stored value)
    rw [List.map_congr_left untouched] at later
    change _ = (context.values.insert key (stored value)).total Json.fieldSize + _ at later
    rw [List.map_cons, List.map_cons, List.map_cons, List.sum_cons, List.sum_cons]
    change ((context.set key value).setAll rest).values.total Json.fieldSize + _ = _
    dsimp only
    omega

theorem serializedSize_merge (some : context.values.isEmpty = false) (outputs : Dict Json) :
    (context.merge outputs).serializedSize +
        (outputs.keys.map (context.values.weightAt Json.fieldSize)).sum =
      context.serializedSize +
        (outputs.entries.map fun entry => Json.fieldSize (entry.1, stored entry.2)).sum := by
  have entries : (context.merge outputs).values.total Json.fieldSize +
      (outputs.keys.map (context.values.weightAt Json.fieldSize)).sum = _ :=
    context.total_setAll (Dict.Ascending.distinct outputs.ordered)
  have someAfter : (context.merge outputs).values.isEmpty = false := by
    rw [Bool.eq_false_iff, Ne, Dict.isEmpty_iff] at some ⊢
    intro nothing
    refine some fun key => ?_
    have merged := (context.get?_merge outputs key).symm.trans (nothing key)
    exact (Option.or_eq_none_iff.mp merged).2
  rw [serializedSize, serializedSize, Json.size_ofDict some, Json.size_ofDict someAfter]
  omega

/-- However a context has come about: its size is the length of its values written as one object,
two bytes for no values, and otherwise one byte and for each key its own text, the text of its value
and two bytes more. So a value under a new key makes a context larger, and without that key it is the
same context again; without a key that it holds it is smaller; and a value that replaces another one
makes the difference of the two values as they are stored, be they cut down or not. -/
theorem serializedSize_additive (context : Context) :
    context.serializedSize = (Json.ofDict context.values).compact.utf8ByteSize ∧
    (context.serializedSize =
      if context.values.isEmpty then 2
      else 1 + (context.values.entries.map fun entry =>
        (Json.quote entry.1).utf8ByteSize + entry.2.compact.utf8ByteSize + 2).sum) ∧
    (∀ key value, context.contains key = false →
      context.serializedSize < (context.set key value).serializedSize ∧
      (context.set key value).remove key = context) ∧
    (∀ key, context.contains key = true →
      (context.remove key).serializedSize < context.serializedSize) ∧
    ∀ key value old, context.get? key = some old →
      ((context.set key value).serializedSize : Int) - context.serializedSize =
        (stored value).compact.utf8ByteSize - old.compact.utf8ByteSize := by
  refine ⟨(Json.utf8ByteSize_compact _).symm, ?_, ?_, ?_, ?_⟩
  · simp only [Json.utf8ByteSize_quote, Json.utf8ByteSize_compact]
    split
    · rename_i empty
      exact Json.size_ofDict_of_isEmpty empty
    · rename_i some
      exact Json.size_ofDict (Bool.eq_false_iff.mpr some)
  · intro key value absent
    have nothing : context.values.get? key = none :=
      Option.isNone_iff_eq_none.mp (Option.isSome_eq_false_iff.mp absent)
    refine ⟨Json.size_ofDict_lt_insert nothing (stored value), ?_⟩
    change { context with values := (context.values.insert key (stored value)).erase key } = context
    rw [Dict.erase_insert, Dict.erase_eq_self nothing]
  · intro key present
    obtain ⟨old, held⟩ := (context.values.contains_iff key).mp present
    exact Json.size_ofDict_erase_lt held
  · intro key value old held
    have changed := Json.size_ofDict_insert held (stored value)
    rw [Json.utf8ByteSize_compact, Json.utf8ByteSize_compact]
    change ((Json.ofDict (context.values.insert key (stored value))).size : Int) -
      (Json.ofDict context.values).size = _
    omega

namespace Sample

def nulls (count : Nat) : Json := .arr (List.replicate count .null)

theorem size_nulls (count : Nat) : (nulls (count + 1)).size = 5 * count + 6 := by
  have more : Json.sizeMoreItems (List.replicate count .null) = 5 * count := by
    induction count with
    | zero => rfl
    | succ count ih =>
      rw [List.replicate_succ, Json.sizeMoreItems, Json.size, ih]
      omega
  rw [nulls, List.replicate_succ, Json.size, Json.sizeItems, more, Json.size]
  omega

end Sample

/-- Letters of two bytes, a line end that is escaped, and a list that is too large to be stored. -/
theorem escaped_sizes_add_up :
    let context := ((new "r").set "größe" (.str "1\n2")).set "b" (.bool true)
    let long := Sample.nulls 300000
    context.serializedSize = 27 ∧
      context.serializedSize < (context.set "c" long).serializedSize ∧
      (context.set "c" long).remove "c" = context ∧
      (context.remove "b").serializedSize < context.serializedSize ∧
      ((context.set "größe" long).serializedSize : Int) - context.serializedSize = 44 - 6 := by
  intro context long
  obtain ⟨-, adds, fresh, gone, replaced⟩ := serializedSize_additive context
  obtain ⟨larger, restored⟩ := fresh "c" long (by decide)
  have written : context.serializedSize = 27 := by
    rw [adds]
    decide
  have marker : (stored long).compact.utf8ByteSize = 44 := by
    have size : long.size = 1500001 := Sample.size_nulls 299999
    rw [Json.utf8ByteSize_compact, stored_of_large (by rw [size]; decide), size,
      size_truncationMarker]
    decide
  refine ⟨written, larger, restored, gone "b" (by decide), ?_⟩
  have changed := replaced "größe" long (.str "1\n2") rfl
  rw [marker] at changed
  exact changed

end Context

end Switchyard
