import Switchyard.Json.Reader
import Switchyard.Proofs.Json.Fields
import Switchyard.Proofs.Number.Finite
set_option autoImplicit false

/-! Values as they are read from a text: fractional numbers are finite and whole numbers fit 64
bits. Main statement: `Json.ofText?_sound`. -/
namespace Switchyard.Json

/-- Every number of the value can stand in a text. -/
def Sound : Json → Prop
  | .int number => smallestWhole ≤ number ∧ number ≤ largestWhole
  | .float number => number.isFinite = true
  | .arr items => SoundItems items
  | .obj fields => SoundFields fields
  | _ => True
where
  SoundItems : List Json → Prop
    | [] => True
    | item :: rest => Sound item ∧ SoundItems rest
  SoundFields : List (String × Json) → Prop
    | [] => True
    | (_, value) :: rest => Sound value ∧ SoundFields rest

theorem soundItems_iff {items : List Json} :
    Sound.SoundItems items ↔ ∀ item ∈ items, item.Sound := by
  induction items with
  | nil => simp [Sound.SoundItems]
  | cons item rest ih => rw [Sound.SoundItems, ih, List.forall_mem_cons]

theorem soundFields_iff {fields : List (String × Json)} :
    Sound.SoundFields fields ↔ ∀ field ∈ fields, field.2.Sound := by
  induction fields with
  | nil => simp [Sound.SoundFields]
  | cons field rest ih => rw [Sound.SoundFields, ih, List.forall_mem_cons]

@[simp] theorem sound_arr {items : List Json} :
    (Json.arr items).Sound ↔ ∀ item ∈ items, item.Sound := soundItems_iff

@[simp] theorem sound_obj {fields : List (String × Json)} :
    (Json.obj fields).Sound ↔ ∀ field ∈ fields, field.2.Sound := soundFields_iff

theorem Sound.field {value found : Json} (sound : value.Sound) {key : String}
    (here : value.field? key = some found) : found.Sound := by
  cases value with
  | obj fields => exact sound_obj.mp sound _ (Dict.mem_of_lookup here)
  | null | bool | int | float | str | arr => cases here

theorem Sound.item {value : Json} (sound : value.Sound) {items : List Json}
    (listed : value.asList? = some items) {item : Json} (inside : item ∈ items) : item.Sound := by
  cases value with
  | arr all =>
    obtain rfl := Option.some.inj listed
    exact sound_arr.mp sound item inside
  | null | bool | int | float | str | obj => cases listed

theorem Sound.isFinite_number {value : Json} (sound : value.Sound) {number : Float}
    (read : value.asFloat? = some number) : number.isFinite = true := by
  cases value with
  | int whole =>
    obtain rfl := Option.some.inj read
    unfold Sound smallestWhole largestWhole at sound
    exact isFinite_ofInt (by omega) (by omega)
  | float fraction =>
    obtain rfl := Option.some.inj read
    exact sound
  | null | bool | str | arr | obj => cases read

theorem Sound.withDefault {α : Type} {value : Json} (sound : value.Sound) {key : String}
    {default item : α} {decode : Json → Option α} {holds : α → Prop} (absent : holds default)
    (present : ∀ {found}, found.Sound → decode found = some item → holds item)
    (read : value.withDefault key default decode = some item) : holds item := by
  rcases exists_of_withDefault read with rfl | ⟨found, here, same⟩
  · exact absent
  · exact present (sound.field here) same

theorem Sound.withDefault_float {value : Json} (sound : value.Sound) {key : String}
    {default number : Float} (regular : default.isFinite = true)
    (read : value.withDefault key default asFloat? = some number) : number.isFinite = true :=
  @Sound.withDefault _ _ sound _ _ _ _ (fun number => number.isFinite = true) regular
    (fun sound same => sound.isFinite_number same) read

/-- A list that may be missing holds only items that come from sound values. -/
theorem Sound.withDefault_list {α : Type} {value : Json} (sound : value.Sound) {key : String}
    {decode : Json → Option α} {holds : α → Prop}
    (each : ∀ {found item}, found.Sound → decode found = some item → holds item)
    {items : List α} (read : value.withDefault key [] (list? decode) = some items) :
    ∀ item ∈ items, holds item := by
  refine @Sound.withDefault _ _ sound _ _ _ _ (fun items => ∀ item ∈ items, holds item) ?_ ?_ read
  · intro item inside
    cases inside
  · intro found sound isList item inside
    obtain ⟨all, origin, listed, among, same⟩ := exists_of_list? isList inside
    exact each (sound.item listed among) same

/-! Reading. -/

theorem signed_sound {negative : Bool} {digits : Nat} {power : Int} {value : Json}
    (read : (if (Decimal.read digits power).isInf then none
      else some (Json.float (if negative then -Decimal.read digits power
        else Decimal.read digits power))) = some value) : value.Sound := by
  cases bounded : (Decimal.read digits power).isInf with
  | true =>
    rw [bounded, if_pos rfl] at read
    cases read
  | false =>
    rw [bounded, if_neg Bool.false_ne_true] at read
    have regular := Decimal.read_isFinite bounded
    obtain rfl := Option.some.inj read
    cases negative with
    | true => exact isFinite_neg regular
    | false => exact regular

theorem numberOf_sound {negative : Bool} {whole : List Char} {fraction : Option (List Char)}
    {exponent : Option Int} {value : Json}
    (read : numberOf negative whole fraction exponent = some value) : value.Sound := by
  unfold numberOf at read
  dsimp only at read
  split at read
  · split at read
    · split at read
      · obtain rfl := Option.some.inj read
        change (-0.0 : Float).isFinite = true
        rfl
      · split at read
        · rename_i fits
          obtain rfl := Option.some.inj read
          refine ⟨fits, ?_⟩
          unfold largestWhole
          omega
        · exact @signed_sound true _ _ _ read
    · split at read
      · rename_i fits
        obtain rfl := Option.some.inj read
        refine ⟨?_, fits⟩
        unfold smallestWhole
        omega
      · exact @signed_sound false _ _ _ read
  · exact signed_sound read

theorem readNumber_sound {negative : Bool} {chars rest : List Char} {value : Json}
    (read : readNumber negative chars = some (value, rest)) : value.Sound := by
  unfold readNumber at read
  dsimp only at read
  split at read
  · cases read
  · simp only [Option.bind_eq_bind, Option.bind_eq_some_iff, Option.pure_def, Option.some.injEq,
      Prod.mk.injEq] at read
    obtain ⟨_, -, _, -, number, isNumber, rfl, -⟩ := read
    exact numberOf_sound isNumber

theorem sound_ofDict_insert {dict : Dict Json} (sound : ∀ field ∈ dict.entries, field.2.Sound)
    (key : String) {value : Json} (added : value.Sound) :
    ∀ field ∈ (dict.insert key value).entries, field.2.Sound := by
  intro field inside
  rcases Dict.mem_place inside with rfl | old
  · exact added
  · exact sound field old

theorem sound_of_map {α : Type} {found : Option α} {make : α → Json × List Char}
    {rest : List Char} {value : Json} (same : found.map make = some (value, rest))
    (each : ∀ part, (make part).1.Sound) : value.Sound := by
  obtain ⟨part, -, made⟩ := Option.map_eq_some_iff.mp same
  have sound := each part
  rwa [made] at sound

/-- Whatever is read is sound, by induction on the fuel for values, items and fields together. -/
theorem read_sound (fuel : Nat) :
    (∀ {chars rest : List Char} {value : Json}, readValue fuel chars = some (value, rest) →
      value.Sound) ∧
    (∀ {read : List Json} {chars rest : List Char} {value : Json}, (∀ item ∈ read, item.Sound) →
      readItems fuel read chars = some (value, rest) → value.Sound) ∧
    (∀ {read : Dict Json} {chars rest : List Char} {value : Json},
      (∀ field ∈ read.entries, field.2.Sound) →
      readFields fuel read chars = some (value, rest) → value.Sound) := by
  induction fuel with
  | zero =>
    refine ⟨fun found => ?_, fun _ found => ?_, fun _ found => ?_⟩
    · rw [readValue] at found
      cases found
    · rw [readItems] at found
      cases found
    · rw [readFields] at found
      cases found
  | succ fuel ih =>
    obtain ⟨values, items, fields⟩ := ih
    refine ⟨fun {chars rest value} found => ?_, fun {read chars rest value} sound found => ?_,
      fun {read chars rest value} sound found => ?_⟩
    · rw [readValue] at found
      split at found
      · cases found
      · exact sound_of_map found fun _ => trivial
      · split at found
        · obtain ⟨rfl, -⟩ := Prod.mk.inj (Option.some.inj found)
          simp
        · exact items (by simp) found
      · split at found
        · obtain ⟨rfl, -⟩ := Prod.mk.inj (Option.some.inj found)
          simp
        · exact fields (by simp [Dict.empty]) found
      · exact readNumber_sound found
      · exact sound_of_map found fun _ => trivial
      · exact sound_of_map found fun _ => trivial
      · exact sound_of_map found fun _ => trivial
      · exact readNumber_sound found
    · rw [readItems] at found
      split at found
      · cases found
      · rename_i item rest' first
        have added := List.forall_mem_cons.mpr ⟨values first, sound⟩
        split at found
        · exact items added found
        · obtain ⟨rfl, -⟩ := Prod.mk.inj (Option.some.inj found)
          rw [sound_arr]
          intro other inside
          exact added other (List.mem_reverse.mp inside)
        · cases found
    · rw [readFields] at found
      split at found
      · split at found
        · cases found
        · split at found
          · split at found
            · cases found
            · rename_i isValue
              have added := fun key => sound_ofDict_insert sound key (values isValue)
              split at found
              · exact fields (added _) found
              · obtain ⟨rfl, -⟩ := Prod.mk.inj (Option.some.inj found)
                exact sound_obj.mpr (added _)
              · cases found
          · cases found
      · cases found

/-- What stands in a text behind its value is only layout. -/
theorem exists_of_ofText? {text : String} {value : Json} (read : ofText? text = some value) :
    ∃ rest, readValue (2 * text.toList.length + 2) text.toList = some (value, rest) ∧
      skipLayout rest = [] := by
  unfold ofText? at read
  dsimp only at read
  split at read
  · rename_i found
    split at read
    · rename_i passed
      obtain rfl := Option.some.inj read
      exact ⟨_, found, List.isEmpty_iff.mp passed⟩
    · cases read
  · cases read

/-- The value of a text is sound. -/
theorem ofText?_sound {text : String} {value : Json} (read : ofText? text = some value) :
    value.Sound := by
  obtain ⟨_, found, -⟩ := exists_of_ofText? read
  exact (read_sound _).1 found

end Switchyard.Json
