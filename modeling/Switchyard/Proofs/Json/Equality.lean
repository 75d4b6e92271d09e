import Switchyard.Capability.Basic
set_option autoImplicit false

/-! Equality of values. It compares fractional numbers as numbers, so that a value with something in
it that is no number differs from itself; values that can be written down have no such thing in
them. -/
namespace Switchyard

/-! Fractional numbers. -/

theorem float_beq_self {number : Float} (finite : number.isFinite = true) :
    (number == number) = true := by
  have unpacked : number.toModel.unpack.isFinite = true := finite
  change number.toModel.unpack.beq number.toModel.unpack = true
  cases found : number.toModel.unpack with
  | infinity sign =>
    rw [found] at unpacked
    cases unpacked
  | notANumber =>
    rw [found] at unpacked
    cases unpacked
  | zero sign => rfl
  | finite sign mantissa exponent positive =>
    have same : (compare exponent exponent).then (compare mantissa mantissa) = .eq := by
      rw [Std.ReflOrd.compare_self, Std.ReflOrd.compare_self]
      rfl
    cases sign with
    | positive =>
      change (some ((compare exponent exponent).then (compare mantissa mantissa)) == some .eq) = true
      rw [same]
      rfl
    | negative =>
      change (some ((compare exponent exponent).then (compare mantissa mantissa)).swap ==
        some .eq) = true
      rw [same]
      rfl

namespace Json

def Proper (value : Json) : Prop := (value == value) = true

/-! Objects, field by field. -/

theorem beqFields_of_keys {left right : List (String × Json)}
    (sameKeys : left.map (·.1) = right.map (·.1))
    (equal : ∀ key first second, (key, first) ∈ left → (key, second) ∈ right →
      (first == second) = true) : beqFields left right = true := by
  induction left generalizing right with
  | nil =>
    rw [List.map_nil] at sameKeys
    rw [List.map_eq_nil_iff.mp sameKeys.symm]
    rfl
  | cons head rest ih =>
    obtain ⟨key, first⟩ := head
    cases right with
    | nil => cases sameKeys
    | cons other others =>
      obtain ⟨otherKey, second⟩ := other
      obtain ⟨heads, tails⟩ := List.cons.inj sameKeys
      obtain rfl : key = otherKey := heads
      have here : beq first second = true :=
        equal key first second List.mem_cons_self List.mem_cons_self
      have later : beqFields rest others = true := ih tails fun k l r inLeft inRight =>
        equal k l r (List.mem_cons_of_mem _ inLeft) (List.mem_cons_of_mem _ inRight)
      rw [beqFields, here, later, beq_self_eq_true]
      rfl

theorem ofDict_beq {left right : Dict Json}
    (equal : ∀ key, Option.Rel (fun first second => (first == second) = true)
      (left.get? key) (right.get? key)) : (ofDict left == ofDict right) = true := by
  have sameKeys : left.map (fun _ _ => ()) = right.map (fun _ _ => ()) := by
    refine Dict.ext_get? fun key => ?_
    have here := equal key
    rw [Dict.get?_map, Dict.get?_map]
    generalize left.get? key = first, right.get? key = second at here ⊢
    cases here <;> rfl
  refine beqFields_of_keys ?_ fun key first second inLeft inRight => ?_
  · have entries := congrArg Dict.keys sameKeys
    simpa only [Dict.keys, Dict.map, List.map_map, Function.comp_def] using entries
  · have here := equal key
    rw [(left.get?_eq_some_iff key first).mpr inLeft,
      (right.get?_eq_some_iff key second).mpr inRight] at here
    cases here with
    | some same => exact same

theorem beqFields_eq (left right : List (String × Json)) :
    beqFields left right = (left == right) := by
  induction left generalizing right with
  | nil => cases right <;> rfl
  | cons first rest ih =>
    cases right with
    | nil => rfl
    | cons other others =>
      rw [beqFields, ih]
      rfl

theorem beq_of_get? {left right : Dict Json}
    (equal : ∀ key, Option.Rel (fun first second => (first == second) = true)
      (left.get? key) (right.get? key)) : (left == right) = true := by
  change (left.entries == right.entries) = true
  rw [← beqFields_eq]
  exact ofDict_beq equal

/-! Values that equal themselves. -/

theorem proper_ofDict {dict : Dict Json}
    (values : ∀ key value, dict.get? key = some value → value.Proper) : (ofDict dict).Proper := by
  refine ofDict_beq fun key => ?_
  cases found : dict.get? key with
  | none => exact .none
  | some value => exact .some (values key value found)

theorem proper_str (text : String) : (Json.str text).Proper := beq_self_eq_true text

theorem proper_bool (flag : Bool) : (Json.bool flag).Proper := beq_self_eq_true flag

theorem proper_texts (list : List String) : (texts list).Proper := by
  change beqItems (list.map .str) (list.map .str) = true
  induction list with
  | nil => rfl
  | cons text rest ih =>
    rw [List.map_cons, beqItems, ih, Bool.and_true]
    exact proper_str text

theorem proper_ofFloat (number : Float) : (ofFloat number).Proper := by
  unfold ofFloat
  split
  · rename_i finite
    exact float_beq_self finite
  · rfl

end Json

theorem CapabilityDecision.proper_toJson (decision : CapabilityDecision) :
    decision.toJson.Proper := by
  refine Json.proper_ofDict fun key value found => ?_
  simp only [Dict.ofList, List.foldl_cons, List.foldl_nil, Dict.get?_insert] at found
  split at found
  · rw [← Option.some.inj found]
    exact Json.proper_ofFloat _
  · split at found
    · rw [← Option.some.inj found]
      exact Json.proper_ofFloat _
    · split at found
      · rw [← Option.some.inj found]
        exact Json.proper_texts _
      · cases found

end Switchyard
