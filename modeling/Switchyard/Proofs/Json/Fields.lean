import Switchyard.Proofs.Context.Values
set_option autoImplicit false

/-! Objects read field by field. Looking a field up in an object written from a list of fields finds
the last one of its key, and what is written for a number, a text, a name, a list or a map reads
back. -/
namespace Switchyard

variable {α β : Type}

namespace Dict

theorem get?_foldl_ofList (list : List (String × α)) (start : Dict α) (key : String) :
    (list.foldl (fun dict entry => dict.insert entry.1 entry.2) start).get? key =
      ((ofList list).get? key).or (start.get? key) := by
  unfold ofList
  induction list generalizing start with
  | nil => rfl
  | cons entry rest ih =>
    rw [List.foldl_cons, List.foldl_cons, ih, ih (empty.insert entry.1 entry.2), Option.or_assoc,
      get?_insert, get?_insert]
    split <;> rfl

theorem get?_ofList_append (first second : List (String × α)) (key : String) :
    (ofList (first ++ second)).get? key =
      ((ofList second).get? key).or ((ofList first).get? key) := by
  rw [← get?_foldl_ofList, ofList, List.foldl_append]
  rfl

end Dict

namespace Json

/-! Fields of objects. -/

@[simp] theorem isObject_object (fields : List (String × Json)) :
    (object fields).isObject = true := rfl

@[simp] theorem field?_object_nil (key : String) : (object []).field? key = none := rfl

@[simp] theorem field?_object_append (first second : List (String × Json)) (key : String) :
    (object (first ++ second)).field? key =
      ((object second).field? key).or ((object first).field? key) :=
  Dict.get?_ofList_append first second key

@[simp] theorem field?_object_cons (key other : String) (value : Json)
    (rest : List (String × Json)) :
    (object ((key, value) :: rest)).field? other =
      ((object rest).field? other).or (if key = other then some value else none) :=
  field?_object_append [(key, value)] rest other

@[simp] theorem field?_object_fieldIfSome (key other : String) (encode : α → Json)
    (item : Option α) :
    (object (fieldIfSome key encode item)).field? other =
      if key = other then item.map encode else none := by
  cases item with
  | none => simp [fieldIfSome]
  | some item => simp [fieldIfSome]

@[simp] theorem field?_object_ite (condition : Prop) [Decidable condition]
    (first second : List (String × Json)) (key : String) :
    (object (if condition then first else second)).field? key =
      if condition then (object first).field? key else (object second).field? key := by
  split <;> rfl

/-! What is written for a piece of data reads back. -/

theorem required_eq {value encoded : Json} {key : String} {decode : Json → Option α} {item : α}
    (found : value.field? key = some encoded) (reads : decode encoded = some item) :
    value.required key decode = some item := by
  rw [required, found, Option.bind_some, reads]

theorem withDefault_eq {value encoded : Json} {key : String} {decode : Json → Option α}
    {default item : α} (found : value.field? key = some encoded)
    (reads : decode encoded = some item) : value.withDefault key default decode = some item := by
  rw [withDefault, found]
  exact reads

theorem withDefault_missing {value : Json} {key : String} (missing : value.field? key = none)
    (default : α) (decode : Json → Option α) :
    value.withDefault key default decode = some default := by
  rw [withDefault, missing]

theorem optional_of_ne_null {value encoded : Json} {key : String} {decode : Json → Option α}
    (found : value.field? key = some encoded) (notNull : encoded ≠ .null) :
    value.optional key decode = (decode encoded).map some := by
  rw [optional, found]
  cases encoded with
  | null => exact absurd rfl notNull
  | bool | int | float | str | arr | obj => rfl

/-- An optional value is told apart from an absent one as long as it is not written as null. -/
theorem optional_eq {value : Json} {key : String} {decode : Json → Option α} {encode : α → Json}
    {item : Option α} (found : value.field? key = item.map encode)
    (reads : ∀ present, item = some present →
      encode present ≠ .null ∧ decode (encode present) = some present) :
    value.optional key decode = some item := by
  cases item with
  | none =>
    rw [optional, found]
    rfl
  | some present =>
    obtain ⟨notNull, read⟩ := reads present rfl
    rw [optional_of_ne_null found notNull, read]
    rfl

@[simp] theorem text?_str (text : String) : text? (.str text) = some text := rfl

@[simp] theorem asBool?_bool (flag : Bool) : asBool? (.bool flag) = some flag := rfl

theorem asIntIn?_int {low high number : Int} (least : low ≤ number) (most : number ≤ high) :
    asIntIn? low high (.int number) = some number := by
  simp only [asIntIn?, least, most, decide_true, Bool.and_self, if_true]

@[simp] theorem uint64?_ofUInt64 (number : UInt64) : uint64? (ofUInt64 number) = some number := by
  have bounded := number.toNat_lt
  have fits : (number.toNat : Int) ≤ largestWhole := by
    unfold largestWhole
    omega
  rw [uint64?, asNat?, ofUInt64, asIntIn?_int (Int.natCast_nonneg _) fits, Option.map_some,
    Option.map_some, Int.toNat_natCast, UInt64.ofNat_toNat]

@[simp] theorem int32?_toInt (number : Int32) : int32? (.int number.toInt) = some number := by
  have least : -2147483648 ≤ number.toInt := number.le_toInt
  have most : number.toInt ≤ 2147483647 := Int.le_of_lt_add_one number.toInt_lt
  rw [int32?, asIntIn?_int least most, Option.map_some, Int32.ofInt_toInt]

theorem optional_text {value : Json} {key : String} {item : Option String}
    (found : value.field? key = item.map .str) : value.optional key text? = some item :=
  optional_eq found fun present _ => ⟨Json.noConfusion, text?_str present⟩

theorem optional_uint64 {value : Json} {key : String} {item : Option UInt64}
    (found : value.field? key = item.map ofUInt64) : value.optional key uint64? = some item :=
  optional_eq found fun present _ => ⟨Json.noConfusion, uint64?_ofUInt64 present⟩

theorem asFloat?_ofFloat {number : Float} (finite : number.isFinite = true) :
    asFloat? (ofFloat number) = some number := by
  rw [ofFloat, if_pos finite]
  rfl

theorem ofFloat_ne_null {number : Float} (finite : number.isFinite = true) :
    ofFloat number ≠ .null := by
  rw [ofFloat, if_pos finite]
  exact Json.noConfusion

theorem name?_str {all : List α} {name : α → String} (distinct : Function.Injective name)
    {item : α} (listed : item ∈ all) : name? all name (.str (name item)) = some item := by
  rw [name?, asText?, Option.bind_some]
  cases found : all.find? fun other => name other == name item with
  | none => exact absurd (beq_self_eq_true _) (List.find?_eq_none.mp found item listed)
  | some other =>
    have same := List.find?_some found
    rw [distinct (eq_of_beq same)]

theorem mapM_eq {encode : β → Json} {decode : Json → Option β} {items : List β}
    (reads : ∀ item ∈ items, decode (encode item) = some item) :
    (items.map encode).mapM decode = some items := by
  induction items with
  | nil => rfl
  | cons item rest ih =>
    obtain ⟨first, others⟩ := List.forall_mem_cons.mp reads
    rw [List.map_cons, List.mapM_cons, first, ih others]
    rfl

theorem list?_map {encode : β → Json} {decode : Json → Option β} {items : List β}
    (reads : ∀ item ∈ items, decode (encode item) = some item) :
    list? decode (.arr (items.map encode)) = some items :=
  mapM_eq reads

@[simp] theorem list?_texts (list : List String) : list? text? (texts list) = some list :=
  list?_map fun _ _ => rfl

@[simp] theorem list?_some (items : List Json) : list? some (.arr items) = some items := by
  have read := @list?_map _ id some items fun _ _ => rfl
  rwa [List.map_id] at read

@[simp] theorem asDict?_ofDict (dict : Dict Json) : asDict? (ofDict dict) = some dict :=
  congrArg some dict.ofList_entries

theorem dict?_ofDict_map {encode : α → Json} {decode : Json → Option α} {dict : Dict α}
    (reads : ∀ item, decode (encode item) = some item) :
    dict? decode (ofDict (dict.map fun _ item => encode item)) = some dict := by
  have read : ((dict.entries.map fun entry => (entry.1, encode entry.2)).mapM fun field =>
      (decode field.2).map fun item => (field.1, item)) = some dict.entries := by
    induction dict.entries with
    | nil => rfl
    | cons entry rest ih =>
      rw [List.map_cons, List.mapM_cons, ih, reads]
      rfl
  have same := congrArg (Option.map Dict.ofList) read
  rw [Option.map_some, dict.ofList_entries] at same
  exact same

/-! What has been read was written somewhere. -/

theorem exists_of_required {value : Json} {key : String} {decode : Json → Option α} {item : α}
    (read : value.required key decode = some item) :
    ∃ found, value.field? key = some found ∧ decode found = some item :=
  Option.bind_eq_some_iff.mp read

theorem exists_of_withDefault {value : Json} {key : String} {decode : Json → Option α}
    {default item : α} (read : value.withDefault key default decode = some item) :
    item = default ∨ ∃ found, value.field? key = some found ∧ decode found = some item := by
  unfold withDefault at read
  split at read
  · exact Or.inl (Option.some.inj read).symm
  · rename_i found here
    exact Or.inr ⟨found, here, read⟩

theorem exists_of_list? {value : Json} {decode : Json → Option α} {items : List α}
    (read : list? decode value = some items) {item : α} (inside : item ∈ items) :
    ∃ all found, value.asList? = some all ∧ found ∈ all ∧ decode found = some item := by
  obtain ⟨all, isList, each⟩ := Option.bind_eq_some_iff.mp read
  refine ⟨all, ?_⟩
  suffices there : ∃ found ∈ all, decode found = some item by
    obtain ⟨found, among, same⟩ := there
    exact ⟨found, isList, among, same⟩
  clear isList read
  induction all generalizing items with
  | nil =>
    rw [← Option.some.inj each] at inside
    cases inside
  | cons first rest ih =>
    simp only [List.mapM_cons, Option.bind_eq_bind, Option.bind_eq_some_iff, Option.pure_def,
      Option.some.injEq] at each
    obtain ⟨head, isHead, tail, isTail, rfl⟩ := each
    rcases List.mem_cons.mp inside with rfl | later
    · exact ⟨first, List.mem_cons_self, isHead⟩
    · obtain ⟨found, among, same⟩ := ih later isTail
      exact ⟨found, List.mem_cons_of_mem _ among, same⟩

/-! Numbers without a written form. -/

theorem finite_ofFloat (number : Float) : (ofFloat number).finite = ofFloat number := by
  unfold ofFloat
  cases regular : number.isFinite with
  | true =>
    change ofFloat number = .float number
    rw [ofFloat, if_pos regular]
  | false => rfl

mutual

/-- Dropping what has no written form drops everything of that kind. -/
theorem finite_finite : ∀ value : Json, value.finite.finite = value.finite
  | .null | .bool _ | .int _ | .str _ => rfl
  | .float number => finite_ofFloat number
  | .arr items => congrArg Json.arr (finiteItems_finiteItems items)
  | .obj fields => congrArg Json.obj (finiteFields_finiteFields fields)

theorem finiteItems_finiteItems : ∀ items : List Json,
    finite.finiteItems (finite.finiteItems items) = finite.finiteItems items
  | [] => rfl
  | item :: rest => by
    simp only [finite.finiteItems, finite_finite item, finiteItems_finiteItems rest]

theorem finiteFields_finiteFields : ∀ fields : List (String × Json),
    finite.finiteFields (finite.finiteFields fields) = finite.finiteFields fields
  | [] => rfl
  | (key, value) :: rest => by
    simp only [finite.finiteFields, finite_finite value, finiteFields_finiteFields rest]

end

end Json

end Switchyard
