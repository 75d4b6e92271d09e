import Switchyard.Proofs.Context.Sizes
set_option autoImplicit false

/-! The context that a request starts with. The input wins over what the caller adds, also where it
says null or more than a context can hold, and in whatever order the entries of both are gone
through. Main statement: `Context.input_wins`. -/
namespace Switchyard

namespace Dict

variable {α : Type} {first second : List (String × α)}

theorem lookup_eq_some_iff (distinct : Distinct first) (key : String) (value : α) :
    lookup key first = some value ↔ (key, value) ∈ first := by
  refine ⟨mem_of_lookup, fun inside => ?_⟩
  induction first with
  | nil => cases inside
  | cons entry rest ih =>
    obtain ⟨once, tail⟩ := List.nodup_cons.mp distinct
    rw [lookup]
    rcases List.mem_cons.mp inside with rfl | later
    · rw [if_pos rfl]
    · have different : entry.1 ≠ key := fun same =>
        once (List.mem_map.mpr ⟨(key, value), later, same.symm⟩)
      rw [if_neg different]
      exact ih tail later

theorem lookup_perm (reordered : first.Perm second) (distinct : Distinct second) (key : String) :
    lookup key first = lookup key second := by
  have distinctToo : Distinct first := (reordered.map _).nodup_iff.mpr distinct
  apply Option.ext
  intro value
  rw [lookup_eq_some_iff distinctToo, lookup_eq_some_iff distinct, reordered.mem_iff]

end Dict

namespace Context

/-- What an input says about a key: an object what it has there, be it null; any other input but null
is the message. -/
def said (key : String) : Json → Option Json
  | .obj fields => (Dict.ofList fields).get? key
  | .null => none
  | message => if key = Key.content then some message else none

theorem said_eq_lookup (key : String) (input : Json) :
    said key input = Dict.lookup key (inputEntries input) := by
  cases input with
  | obj fields => rfl
  | null => rfl
  | bool | int | float | str | arr =>
    change (if key = Key.content then some _ else none) = Dict.lookup key [(Key.content, _)]
    by_cases same : key = Key.content
    · rw [if_pos same, Dict.lookup, if_pos same.symm]
    · rw [if_neg same, Dict.lookup, if_neg (Ne.symm same), Dict.lookup]

/-- One of the caller's entries is taken up unless there is a value under its key by then. -/
def fill (context : Context) (entry : String × Json) : Context :=
  if context.contains entry.1 then context else context.set entry.1 entry.2

/-- A request taken up entry by entry: what the input says is set, and then the caller's entries fill
what is missing. -/
def takenUp (correlationId : String) (inInput inCaller : List (String × Json)) : Context :=
  inCaller.foldl fill ((new correlationId).setAll inInput)

theorem foldl_fill_correlationId (context : Context) (entries : List (String × Json)) :
    (entries.foldl fill context).correlationId = context.correlationId := by
  induction entries generalizing context with
  | nil => rfl
  | cons entry rest ih =>
    rw [List.foldl_cons, ih, fill]
    split <;> rfl

theorem get?_foldl_fill (context : Context) (entries : List (String × Json)) (key : String) :
    (entries.foldl fill context).get? key =
      (context.get? key).or ((Dict.lookup key entries).map stored) := by
  induction entries generalizing context with
  | nil => rw [Dict.lookup, Option.map_none, Option.or_none]; rfl
  | cons entry rest ih =>
    obtain ⟨here, value⟩ := entry
    rw [List.foldl_cons, ih, fill, Dict.lookup]
    cases held : context.contains here with
    | true =>
      rw [if_pos rfl]
      split
      · rename_i same
        obtain ⟨old, found⟩ := (context.values.contains_iff here).mp held
        have there : context.get? key = some old := same ▸ found
        rw [there, Option.some_or, Option.some_or]
      · rfl
    | false =>
      rw [if_neg Bool.false_ne_true, get?_set]
      split
      · rename_i same
        have free : context.get? key = none := by
          rw [← same]
          exact Option.not_isSome_iff_eq_none.mp (Bool.eq_false_iff.mp held)
        rw [free, Option.none_or, Option.some_or]
        rfl
      · rfl

theorem ext_get? {left right : Context} (sameId : left.correlationId = right.correlationId)
    (same : ∀ key, left.get? key = right.get? key) : left = right := by
  obtain ⟨leftId, leftValues⟩ := left
  obtain ⟨rightId, rightValues⟩ := right
  obtain rfl : leftId = rightId := sameId
  obtain rfl : leftValues = rightValues := Dict.ext_get? same
  rfl

/-- A request may be taken up in any order. -/
theorem takenUp_eq_ofRequest (correlationId : String) {input : Json} {caller : Dict Json}
    {inInput inCaller : List (String × Json)} (reordered : inInput.Perm (inputEntries input))
    (reorderedToo : inCaller.Perm caller.entries) :
    takenUp correlationId inInput inCaller = ofRequest correlationId input caller := by
  have inputOnce : Dict.Distinct (inputEntries input) := (inputEntries_ascending input).distinct
  have callerOnce : Dict.Distinct caller.entries := caller.keys_nodup
  have distinct : Dict.Distinct inInput := (reordered.map _).nodup_iff.mpr inputOnce
  apply ext_get?
  · rw [takenUp, foldl_fill_correlationId, setAll_correlationId, ofRequest_correlationId]
    rfl
  · intro key
    have nothing : (new correlationId).get? key = none := rfl
    rw [takenUp, get?_foldl_fill, get?_setAll distinct, nothing, Option.or_none,
      Dict.lookup_perm reordered inputOnce, Dict.lookup_perm reorderedToo callerOnce,
      get?_ofRequest, Option.map_or]
    rfl

/-- Whatever the input and whatever the caller adds: a request starts with what its input says about
a key, otherwise with what the caller says, otherwise with nothing. A value is held as it is if its
compact text is within the limit, and otherwise as the marker of its size. What the input says keeps
the caller out even if it is null or too large, and the order in which the entries are gone through
does not matter. -/
theorem input_wins (correlationId : String) (input : Json) (caller : Dict Json) :
    (∀ key, (ofRequest correlationId input caller).get? key =
      ((said key input).or (caller.get? key)).map stored) ∧
    (∀ value : Json,
      (value.compact.utf8ByteSize ≤ sizeLimit → stored value = value) ∧
      (sizeLimit < value.compact.utf8ByteSize →
        stored value = .obj [("_original_size", .int value.compact.utf8ByteSize),
          ("_truncated", .bool true)])) ∧
    (∀ key value, said key input = some value → ∀ other : Dict Json,
      (ofRequest correlationId input other).get? key = some (stored value)) ∧
    ∀ inInput inCaller : List (String × Json), inInput.Perm (inputEntries input) →
      inCaller.Perm caller.entries →
      takenUp correlationId inInput inCaller = ofRequest correlationId input caller := by
  have starts : ∀ (caller : Dict Json) (key : String),
      (ofRequest correlationId input caller).get? key =
        ((said key input).or (caller.get? key)).map stored := by
    intro caller key
    rw [get?_ofRequest, said_eq_lookup]
  refine ⟨starts caller, ?_, ?_, ?_⟩
  · intro value
    rw [Json.utf8ByteSize_compact]
    exact ⟨stored_of_small, stored_of_large⟩
  · intro key value told other
    rw [starts, told, Option.some_or, Option.map_some]
  · intro inInput inCaller reordered reorderedToo
    exact takenUp_eq_ofRequest correlationId reordered reorderedToo

/-- A null of the input keeps the caller's message out, and the caller's entries may be gone through
backwards. -/
theorem null_message_wins :
    let input := Json.obj [("content", .null)]
    let caller := Dict.ofList [("content", Json.str "mine"), ("userId", .str "u")]
    (ofRequest "r" input caller).get? "content" = some .null ∧
      (ofRequest "r" input caller).get? "userId" = some (.str "u") ∧
      takenUp "r" [("content", .null)] [("userId", .str "u"), ("content", .str "mine")] =
        ofRequest "r" input caller := by
  intro input caller
  obtain ⟨starts, -, blocks, reorders⟩ := input_wins "r" input caller
  refine ⟨blocks "content" .null rfl caller, ?_, reorders _ _ (List.Perm.refl _) ?_⟩
  · exact (starts "userId").trans rfl
  · exact List.Perm.swap _ _ []

end Context

end Switchyard
