import Switchyard.Context
import Switchyard.Proofs.Json.Equality
set_option autoImplicit false

/-! What a context holds once entries have been set in it one after another: under every key the new
value, if there is one, and the old one otherwise. -/
namespace Switchyard

namespace Context

theorem setAll_correlationId (context : Context) (entries : List (String × Json)) :
    (context.setAll entries).correlationId = context.correlationId := by
  unfold setAll
  induction entries generalizing context with
  | nil => rfl
  | cons entry rest ih => exact ih (context.set entry.1 entry.2)

theorem ofRequest_correlationId (id : String) (input : Json) (caller : Dict Json) :
    (ofRequest id input caller).correlationId = id := by
  rw [ofRequest, setAll_correlationId, ofInput, setAll_correlationId]
  rfl

theorem get?_setAll {entries : List (String × Json)} (distinct : Dict.Distinct entries)
    (context : Context) (key : String) :
    (context.setAll entries).get? key =
      ((Dict.lookup key entries).map stored).or (context.get? key) := by
  have values : ∀ (context : Context), (context.setAll entries).values =
      entries.foldl (fun dict entry => dict.insert entry.1 (stored entry.2)) context.values := by
    clear distinct
    induction entries with
    | nil => exact fun _ => rfl
    | cons entry rest ih => exact fun context => ih (context.set entry.1 entry.2)
  rw [get?, values]
  exact Dict.get?_foldl_insert stored distinct context.values key

theorem get?_merge (context : Context) (outputs : Dict Json) (key : String) :
    (context.merge outputs).get? key =
      ((outputs.get? key).map stored).or (context.get? key) :=
  get?_setAll (Dict.Ascending.distinct outputs.ordered) context key

theorem inputEntries_ascending (input : Json) : Dict.Ascending (inputEntries input) := by
  cases input with
  | null => exact List.Pairwise.nil
  | obj fields => exact (Dict.ofList fields).ordered
  | _ => exact List.pairwise_singleton _ _

theorem get?_ofInput (correlationId : String) (input : Json) (key : String) :
    (ofInput correlationId input).get? key =
      (Dict.lookup key (inputEntries input)).map stored := by
  have held := get?_setAll (inputEntries_ascending input).distinct (new correlationId) key
  have nothing : (new correlationId).get? key = none := rfl
  rw [nothing, Option.or_none] at held
  exact held

theorem get?_ofRequest (correlationId : String) (input : Json) (caller : Dict Json)
    (key : String) :
    (ofRequest correlationId input caller).get? key =
      ((Dict.lookup key (inputEntries input)).or (caller.get? key)).map stored := by
  have ascending : Dict.Ascending ((ofInput correlationId input).missingEntries caller) :=
    List.Pairwise.filter _ caller.ordered
  have missing : Dict.lookup key ((ofInput correlationId input).missingEntries caller) =
      (caller.get? key).filter fun _ => !(ofInput correlationId input).contains key :=
    Dict.lookup_filter (fun key _ => !(ofInput correlationId input).contains key)
      caller.ordered key
  have said := get?_ofInput correlationId input key
  have held : (ofInput correlationId input).contains key =
      ((ofInput correlationId input).get? key).isSome := rfl
  rw [ofRequest, get?_setAll ascending.distinct, missing, held, said]
  cases Dict.lookup key (inputEntries input) with
  | none =>
    rw [Option.none_or, Option.map_none, Option.or_none]
    congr 1
    cases caller.get? key <;> rfl
  | some value => cases caller.get? key <;> rfl

theorem get?_changesSince (after before : Context) (key : String) :
    (after.changesSince before).get? key = (after.get? key).filter fun value =>
      match before.get? key with
      | some old => !(old == value)
      | none => true :=
  Dict.get?_filter after.values _ key

/-! What holds of every value that a context holds, and of what comes in, holds afterwards too. -/

section Values

variable {context : Context} {holds : Json → Prop}

theorem forall_get?_set (before : ∀ key value, context.get? key = some value → holds value)
    (key : String) {value : Json} (added : holds (stored value)) :
    ∀ other held, (context.set key value).get? other = some held → holds held :=
  Dict.forall_get?_insert added before

theorem forall_get?_setAll (before : ∀ key value, context.get? key = some value → holds value)
    {entries : List (String × Json)} (added : ∀ entry ∈ entries, holds (stored entry.2)) :
    ∀ key held, (context.setAll entries).get? key = some held → holds held := by
  unfold setAll
  induction entries generalizing context with
  | nil => exact before
  | cons entry rest ih =>
    obtain ⟨first, later⟩ := List.forall_mem_cons.mp added
    exact ih (forall_get?_set before entry.1 first) later

theorem forall_get?_remove (before : ∀ key value, context.get? key = some value → holds value)
    (key : String) : ∀ other held, (context.remove key).get? other = some held → holds held := by
  intro other held found
  rw [get?_remove] at found
  split at found
  · cases found
  · exact before other held found

end Values

/-! Contexts all of whose values can be written down. -/

def Proper (context : Context) : Prop :=
  ∀ key value, context.get? key = some value → value.Proper

theorem proper_truncationMarker (size : Nat) : (truncationMarker size).Proper := by
  change Json.beqFields _ _ = true
  simp [Json.beqFields, Json.beq]

theorem proper_stored {value : Json} (proper : value.Proper) : (stored value).Proper := by
  unfold stored
  split
  · exact proper_truncationMarker value.size
  · exact proper

theorem Proper.set {context : Context} (proper : context.Proper) (key : String) {value : Json}
    (added : value.Proper) : (context.set key value).Proper :=
  forall_get?_set proper key (proper_stored added)

theorem Proper.setAll {context : Context} (proper : context.Proper)
    {entries : List (String × Json)} (added : ∀ entry ∈ entries, entry.2.Proper) :
    (context.setAll entries).Proper :=
  forall_get?_setAll proper fun entry inside => proper_stored (added entry inside)

theorem Proper.remove {context : Context} (proper : context.Proper) (key : String) :
    (context.remove key).Proper :=
  forall_get?_remove proper key

end Context

end Switchyard
