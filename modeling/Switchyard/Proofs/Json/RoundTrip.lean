import Switchyard.Proofs.Json.Sound
import Switchyard.Proofs.Json.Tokens
set_option autoImplicit false

/-! Reading back what has been written. Main statements: `Json.ofText?_compact` and
`Json.ofText?_indented`, both texts of a value hold that value. -/
namespace Switchyard.Json

/-- The reader finds the value in the text, whatever follows that ends a number, and has passed the
text but for layout. -/
def Reads (value : Json) (chars : List Char) : Prop :=
  ∀ (fuel : Nat) (rest : List Char), 2 * chars.length ≤ fuel → EndsNumber rest →
    ∃ after, readValue fuel (chars ++ rest) = some (value, after) ∧
      skipLayout after = skipLayout rest

/-- The reader finds the items up to the closing bracket. -/
def ReadsItems (items : List Json) (chars : List Char) : Prop :=
  ∀ (fuel : Nat) (read : List Json) (rest : List Char), 2 * chars.length < fuel →
    readItems fuel read (chars ++ ']' :: rest) = some (.arr (read.reverse ++ items), rest)

/-- The reader finds the fields up to the closing brace. -/
def ReadsFields (fields : List (String × Json)) (chars : List Char) : Prop :=
  ∀ (fuel : Nat) (read : Dict Json) (rest : List Char), 2 * chars.length < fuel →
    readFields fuel read (chars ++ '\x7d' :: rest) =
      some (ofDict (fields.foldl (fun dict field => dict.insert field.1 field.2) read), rest)

theorem readValue_layout {blanks : List Char} (layout : ∀ char ∈ blanks, isLayout char = true)
    (fuel : Nat) (chars : List Char) : readValue fuel (blanks ++ chars) = readValue fuel chars := by
  cases fuel with
  | zero => rw [readValue, readValue]
  | succ fuel => rw [readValue, readValue, skipLayout_append layout]

theorem readFields_layout {blanks : List Char} (layout : ∀ char ∈ blanks, isLayout char = true)
    (fuel : Nat) (read : Dict Json) (chars : List Char) :
    readFields fuel read (blanks ++ chars) = readFields fuel read chars := by
  cases fuel with
  | zero => rw [readFields, readFields]
  | succ fuel => rw [readFields, readFields, skipLayout_append layout]

section Steps

variable {value : Json} {items : List Json} {fields : List (String × Json)}
  {blanks chars more : List Char}

theorem Reads.layout (layout : ∀ char ∈ blanks, isLayout char = true)
    (reads : Reads value chars) : Reads value (blanks ++ chars) := by
  intro fuel rest enough ends
  rw [List.append_assoc, readValue_layout layout]
  rw [List.length_append] at enough
  exact reads fuel rest (by omega) ends

theorem ReadsFields.layout (layout : ∀ char ∈ blanks, isLayout char = true)
    (reads : ReadsFields fields chars) : ReadsFields fields (blanks ++ chars) := by
  intro fuel read rest enough
  rw [List.append_assoc, readFields_layout layout]
  rw [List.length_append] at enough
  exact reads fuel read rest (by omega)

theorem Reads.last_item (reads : Reads value chars)
    (layout : ∀ char ∈ blanks, isLayout char = true) : ReadsItems [value] (chars ++ blanks) := by
  intro fuel read rest enough
  cases fuel with
  | zero => cases enough
  | succ fuel =>
    rw [List.length_append] at enough
    obtain ⟨after, found, passed⟩ := reads fuel (blanks ++ ']' :: rest) (by omega)
      (endsNumber_append layout (endsNumber_cons (by decide) rest))
    rw [skipLayout_append layout] at passed
    have closing : skipLayout after = ']' :: rest :=
      passed.trans (skipLayout_cons rfl _)
    rw [List.append_assoc, readItems, found]
    simp only [closing, List.reverse_cons]

theorem Reads.item (reads : Reads value chars) (others : ReadsItems items more) :
    ReadsItems (value :: items) (chars ++ ',' :: more) := by
  intro fuel read rest enough
  cases fuel with
  | zero => cases enough
  | succ fuel =>
    rw [List.length_append, List.length_cons] at enough
    obtain ⟨after, found, passed⟩ := reads fuel (',' :: more ++ ']' :: rest) (by omega)
      (endsNumber_cons (by decide) _)
    have comma : skipLayout after = ',' :: (more ++ ']' :: rest) :=
      passed.trans (skipLayout_cons rfl _)
    rw [List.append_assoc, readItems, found]
    simp only [comma]
    rw [others fuel (value :: read) rest (by omega), List.reverse_cons, List.append_assoc]
    rfl

theorem reads_str (text : String) : Reads (.str text) (quote text).toList := by
  intro fuel rest enough ends
  have length := length_le_escaped text.toList
  rw [toList_quote, List.length_cons, List.length_append, List.length_singleton] at enough
  cases fuel with
  | zero => cases enough
  | succ fuel =>
    refine ⟨rest, ?_, rfl⟩
    rw [toList_quote, List.cons_append, List.append_assoc, List.singleton_append, readValue,
      skipLayout_cons rfl]
    simp only [readText_quoted text (by omega : text.toList.length < fuel) rest]
    rfl

/-- No value begins with a closing bracket. -/
theorem readValue_closing {fuel : Nat} {chars rest : List Char}
    (closing : skipLayout chars = ']' :: rest) : readValue fuel chars = none := by
  cases fuel with
  | zero => rw [readValue]
  | succ fuel =>
    rw [readValue, closing]
    rfl

theorem ReadsItems.list (reads : ReadsItems items chars) :
    Reads (.arr items) ('[' :: (chars ++ [']'])) := by
  intro fuel rest enough ends
  simp only [List.length_cons, List.length_append, List.length_nil] at enough
  cases fuel with
  | zero => omega
  | succ fuel =>
    have found := reads fuel [] rest (by omega)
    refine ⟨rest, ?_, rfl⟩
    rw [List.cons_append, List.append_assoc, List.singleton_append]
    simp only [readValue, skipLayout_cons (rfl : isLayout '[' = false)]
    -- A list with an item in it is not closed at once, or no item could have been read.
    split
    · rename_i after closing
      cases fuel with
      | zero => omega
      | succ fuel =>
        rw [readItems, readValue_closing closing] at found
        cases found
    · exact found

/-- No field begins with a closing brace. -/
theorem readFields_closing {fuel : Nat} {read : Dict Json} {chars rest : List Char}
    (closing : skipLayout chars = '\x7d' :: rest) : readFields fuel read chars = none := by
  cases fuel with
  | zero => rw [readFields]
  | succ fuel =>
    rw [readFields, closing]
    rfl

theorem ReadsFields.object (reads : ReadsFields fields chars) (ascending : Dict.Ascending fields) :
    Reads (.obj fields) ('\x7b' :: (chars ++ ['\x7d'])) := by
  intro fuel rest enough ends
  simp only [List.length_cons, List.length_append, List.length_nil] at enough
  have same : ofDict (fields.foldl (fun dict field => dict.insert field.1 field.2) Dict.empty) =
      .obj fields := congrArg ofDict (Dict.ofList_entries ⟨fields, ascending⟩)
  cases fuel with
  | zero => omega
  | succ fuel =>
    have found := reads fuel Dict.empty rest (by omega)
    rw [same] at found
    refine ⟨rest, ?_, rfl⟩
    rw [List.cons_append, List.append_assoc, List.singleton_append]
    simp only [readValue, skipLayout_cons (rfl : isLayout '\x7b' = false)]
    split
    · rename_i after closing
      rw [readFields_closing closing] at found
      cases found
    · exact found

section Field

variable {fuel : Nat} {key : String} {rest after tail : List Char} (read : Dict Json)
  (enough : key.toList.length < fuel) (found : readValue fuel rest = some (value, after))
include enough found

theorem readFields_last (closing : skipLayout after = '\x7d' :: tail) :
    readFields (fuel + 1) read ((quote key).toList ++ ':' :: rest) =
      some (ofDict (read.insert key value), tail) := by
  rw [toList_quote, List.cons_append, List.append_assoc, List.singleton_append, readFields,
    skipLayout_cons rfl]
  simp only [readText_quoted key enough, skipLayout_cons (rfl : isLayout ':' = false), found,
    closing]

theorem readFields_next (comma : skipLayout after = ',' :: tail) :
    readFields (fuel + 1) read ((quote key).toList ++ ':' :: rest) =
      readFields fuel (read.insert key value) tail := by
  rw [toList_quote, List.cons_append, List.append_assoc, List.singleton_append, readFields,
    skipLayout_cons rfl]
  simp only [readText_quoted key enough, skipLayout_cons (rfl : isLayout ':' = false), found, comma]

end Field

theorem Reads.last_field (reads : Reads value chars) (key : String)
    (layout : ∀ char ∈ blanks, isLayout char = true) :
    ReadsFields [(key, value)] ((quote key).toList ++ ':' :: (chars ++ blanks)) := by
  intro fuel read rest enough
  have length := length_le_escaped key.toList
  simp only [toList_quote, List.length_append, List.length_cons] at enough
  cases fuel with
  | zero => omega
  | succ fuel =>
    obtain ⟨after, found, passed⟩ := reads fuel (blanks ++ '\x7d' :: rest) (by omega)
      (endsNumber_append layout (endsNumber_cons (by decide) rest))
    rw [skipLayout_append layout] at passed
    have closing : skipLayout after = '\x7d' :: rest :=
      passed.trans (skipLayout_cons rfl _)
    rw [List.append_assoc, List.cons_append, List.append_assoc]
    exact readFields_last read (by omega) found closing

theorem Reads.field (reads : Reads value chars) (key : String) (others : ReadsFields fields more) :
    ReadsFields ((key, value) :: fields)
      ((quote key).toList ++ ':' :: (chars ++ ',' :: more)) := by
  intro fuel read rest enough
  have length := length_le_escaped key.toList
  simp only [toList_quote, List.length_append, List.length_cons] at enough
  cases fuel with
  | zero => omega
  | succ fuel =>
    obtain ⟨after, found, passed⟩ := reads fuel (',' :: more ++ '\x7d' :: rest) (by omega)
      (endsNumber_cons (by decide) _)
    have comma : skipLayout after = ',' :: (more ++ '\x7d' :: rest) :=
      passed.trans (skipLayout_cons rfl _)
    rw [List.append_assoc, List.cons_append, List.append_assoc,
      readFields_next read (by omega) found comma]
    exact others fuel (read.insert key value) rest (by omega)

end Steps

/-! Numbers in the place of a value. -/

section Numbers

variable {value : Json} {chars digits rest : List Char}

theorem readValue_digit {char : Char} (first : skipLayout chars = char :: digits)
    (digit : isDigit char = true) (fuel : Nat) :
    readValue (fuel + 1) chars = readNumber false (char :: digits) := by
  have other : ∀ special, isDigit special = false → char ≠ special := by
    rintro _ none rfl
    rw [none] at digit
    cases digit
  rw [readValue, first]
  split <;> rename_i same
  · cases same
  · exact absurd (List.cons.inj same).1 (other '"' rfl)
  · exact absurd (List.cons.inj same).1 (other '[' rfl)
  · exact absurd (List.cons.inj same).1 (other '\x7b' rfl)
  · exact absurd (List.cons.inj same).1 (other '-' rfl)
  · exact absurd (List.cons.inj same).1 (other 't' rfl)
  · exact absurd (List.cons.inj same).1 (other 'f' rfl)
  · exact absurd (List.cons.inj same).1 (other 'n' rfl)
  · obtain ⟨rfl, rfl⟩ := List.cons.inj same
    rfl

/-- A number is found before whatever ends it if it is all that the text holds. -/
theorem reads_number {negative : Bool} (written : chars ≠ [])
    (begins : ∀ fuel more,
      readValue (fuel + 1) (chars ++ more) = readNumber negative (digits ++ more))
    (read : readNumber negative digits = some (value, rest)) (passed : skipLayout rest = []) :
    Reads value chars := by
  intro fuel more enough ends
  have length := List.length_pos_iff.mpr written
  cases fuel with
  | zero => omega
  | succ fuel =>
    refine ⟨rest ++ more, ?_, skipLayout_append (List.dropWhile_eq_nil_iff.mp passed) more⟩
    rw [begins]
    exact readNumber_append ends read

theorem ne_nil_of_skipLayout {char : Char} (first : skipLayout chars = char :: rest) :
    chars ≠ [] := by
  rintro rfl
  cases first

theorem reads_negative (first : skipLayout chars = '-' :: digits)
    (read : readNumber true digits = some (value, rest)) (passed : skipLayout rest = []) :
    Reads value chars := by
  refine reads_number (ne_nil_of_skipLayout first) (fun fuel more => ?_) read passed
  rw [readValue, skipLayout_append_of_cons first]
  rfl

theorem reads_positive {char : Char} (first : skipLayout chars = char :: digits)
    (digit : isDigit char = true) (read : readNumber false (char :: digits) = some (value, rest))
    (passed : skipLayout rest = []) : Reads value chars :=
  reads_number (ne_nil_of_skipLayout first)
    (fun fuel more => readValue_digit (skipLayout_append_of_cons first more) digit fuel) read passed

end Numbers

theorem reads_int {number : Int} (least : smallestWhole ≤ number) (most : number ≤ largestWhole) :
    Reads (.int number) (toString number).toList := by
  cases number with
  | ofNat number =>
    have written : (toString (Int.ofNat number)).toList = Nat.toDigits 10 number := by
      change (toString number).toList = _
      rw [Nat.toString_eq_ofList_toDigits, String.toList_ofList]
    have found : readNumber false (Nat.toDigits 10 number) = some (.int number, []) := by
      refine readNumber_toDigits ?_
      simp only [numberOf, digitsValue_toDigits]
      exact if_pos most
    rw [written]
    obtain ⟨char, digits, split⟩ := List.exists_cons_of_ne_nil (@Nat.toDigits_ne_nil number 10)
    have digit : isDigit char = true := Nat.isDigit_of_mem_toDigits (by decide) (by decide)
      (split ▸ List.mem_cons_self : char ∈ Nat.toDigits 10 number)
    rw [split] at found ⊢
    exact reads_positive (skipLayout_cons (isLayout_digit digit) digits) digit found rfl
  | negSucc number =>
    have written :
        (toString (Int.negSucc number)).toList = '-' :: Nat.toDigits 10 (number + 1) := by
      change ("-" ++ toString (number + 1)).toList = _
      rw [String.toList_append, Nat.toString_eq_ofList_toDigits, String.toList_ofList,
        String.toList_ofList]
      rfl
    have found : readNumber true (Nat.toDigits 10 (number + 1)) =
        some (.int (.negSucc number), []) := by
      refine readNumber_toDigits ?_
      simp only [numberOf, digitsValue_toDigits]
      have nonzero : ((number + 1 : Nat) : Int) ≠ 0 := by omega
      rw [if_pos trivial, if_neg nonzero]
      exact if_pos least
    rw [written]
    exact reads_negative rfl found rfl

theorem exists_of_readItems {fuel : Nat} {read : List Json} {chars rest : List Char} {value : Json}
    (found : readItems fuel read chars = some (value, rest)) : ∃ items, value = .arr items := by
  induction fuel generalizing read chars with
  | zero =>
    rw [readItems] at found
    cases found
  | succ fuel ih =>
    rw [readItems] at found
    split at found
    · cases found
    · split at found
      · exact ih found
      · exact ⟨_, (Prod.mk.inj (Option.some.inj found)).1.symm⟩
      · cases found

theorem exists_of_readFields {fuel : Nat} {read : Dict Json} {chars rest : List Char} {value : Json}
    (found : readFields fuel read chars = some (value, rest)) : ∃ fields, value = .obj fields := by
  induction fuel generalizing read chars with
  | zero =>
    rw [readFields] at found
    cases found
  | succ fuel ih =>
    rw [readFields] at found
    split at found
    · split at found
      · cases found
      · split at found
        · split at found
          · cases found
          · split at found
            · exact ih found
            · exact ⟨_, (Prod.mk.inj (Option.some.inj found)).1.symm⟩
            · cases found
        · cases found
    · cases found

/-- A fractional number that its text alone holds is found in that text wherever it stands. -/
theorem reads_float {number : Float} {text : String}
    (alone : ofText? text = some (.float number)) : Reads (.float number) text.toList := by
  obtain ⟨rest, found, passed⟩ := exists_of_ofText? alone
  -- Of all ways in which a value can begin, only those of numbers lead to a number.
  rw [readValue] at found
  split at found <;> rename_i first
  · cases found
  · obtain ⟨_, -, same⟩ := Option.map_eq_some_iff.mp found
    cases same
  · split at found
    · cases found
    · obtain ⟨_, same⟩ := exists_of_readItems found
      cases same
  · split at found
    · cases found
    · obtain ⟨_, same⟩ := exists_of_readFields found
      cases same
  · exact reads_negative first found passed
  · obtain ⟨_, -, same⟩ := Option.map_eq_some_iff.mp found
    cases same
  · obtain ⟨_, -, same⟩ := Option.map_eq_some_iff.mp found
    cases same
  · obtain ⟨_, -, same⟩ := Option.map_eq_some_iff.mp found
    cases same
  · exact reads_positive first (isDigit_of_readNumber found) found passed

/-! Both texts of a value. -/

/-- The value can be found again in its text: whole numbers fit 64 bits, fractional numbers read
back from their own text, and the fields of objects are in ascending order of their keys. -/
def Legible : Json → Prop
  | .int number => smallestWhole ≤ number ∧ number ≤ largestWhole
  | .float number => ofText? (Decimal.Layout.data.write number) = some (.float number)
  | .arr items => LegibleItems items
  | .obj fields => Dict.Ascending fields ∧ LegibleFields fields
  | _ => True
where
  LegibleItems : List Json → Prop
    | [] => True
    | item :: rest => Legible item ∧ LegibleItems rest
  LegibleFields : List (String × Json) → Prop
    | [] => True
    | (_, value) :: rest => Legible value ∧ LegibleFields rest

theorem legibleItems_iff {items : List Json} :
    Legible.LegibleItems items ↔ ∀ item ∈ items, item.Legible := by
  induction items with
  | nil => simp [Legible.LegibleItems]
  | cons item rest ih => rw [Legible.LegibleItems, ih, List.forall_mem_cons]

theorem legibleFields_iff {fields : List (String × Json)} :
    Legible.LegibleFields fields ↔ ∀ field ∈ fields, field.2.Legible := by
  induction fields with
  | nil => simp [Legible.LegibleFields]
  | cons field rest ih => rw [Legible.LegibleFields, ih, List.forall_mem_cons]

/-- What is written field by field is legible if its fields are. -/
theorem legible_object {fields : List (String × Json)} (each : Legible.LegibleFields fields) :
    (object fields).Legible :=
  ⟨(Dict.ofList fields).ordered, legibleFields_iff.mpr fun field inside =>
    legibleFields_iff.mp each field (Dict.mem_of_mem_ofList inside)⟩

theorem legible_map {α : Type} {encode : α → Json} {items : List α}
    (each : ∀ item ∈ items, (encode item).Legible) : (Json.arr (items.map encode)).Legible :=
  legibleItems_iff.mpr (List.forall_mem_map.mpr each)

section Encoded

variable {α : Type}

@[simp] theorem legibleFields_nil : Legible.LegibleFields [] := trivial

@[simp] theorem legibleFields_cons {key : String} {value : Json} {rest : List (String × Json)} :
    Legible.LegibleFields ((key, value) :: rest) ↔
      value.Legible ∧ Legible.LegibleFields rest := Iff.rfl

@[simp] theorem legibleFields_append {first second : List (String × Json)} :
    Legible.LegibleFields (first ++ second) ↔
      Legible.LegibleFields first ∧ Legible.LegibleFields second := by
  rw [legibleFields_iff, legibleFields_iff, legibleFields_iff, List.forall_mem_append]

@[simp] theorem legibleFields_ite {condition : Prop} [Decidable condition]
    {fields : List (String × Json)} :
    Legible.LegibleFields (if condition then [] else fields) ↔
      (¬condition → Legible.LegibleFields fields) := by
  split <;> simp [*]

@[simp] theorem legibleFields_fieldIfSome {encode : α → Json} {key : String} {item : Option α} :
    Legible.LegibleFields (fieldIfSome key encode item) ↔
      ∀ found, item = some found → (encode found).Legible := by
  cases item <;> simp [fieldIfSome]

@[simp] theorem legible_null : Json.null.Legible := trivial

@[simp] theorem legible_bool (flag : Bool) : (Json.bool flag).Legible := trivial

@[simp] theorem legible_str (text : String) : (Json.str text).Legible := trivial

@[simp] theorem legible_texts (list : List String) : (texts list).Legible :=
  legible_map fun text _ => legible_str text

@[simp] theorem legible_ofUInt64 (number : UInt64) : (ofUInt64 number).Legible := by
  have small := number.toNat_lt
  constructor
  · unfold smallestWhole
    omega
  · unfold largestWhole
    omega

@[simp] theorem legible_int32 (number : Int32) : (Json.int number.toInt).Legible := by
  have least := number.le_toInt
  have most := number.toInt_lt
  constructor
  · unfold smallestWhole
    omega
  · unfold largestWhole
    omega

theorem legible_zero : (Json.float 0.0).Legible := by
  have written : Decimal.Layout.data.write 0.0 = "0.0" := rfl
  rw [Legible, written]
  rfl

theorem legible_one : (Json.float 1.0).Legible := by
  have digits : Decimal.Binary.shortest ⟨4503599627370496, -52, true⟩ .toEven = ⟨1, 0⟩ := by
    change Decimal.Scaled.trim ⟨1, 0⟩ = _
    rw [Decimal.Scaled.trim]
    rfl
  have written : Decimal.Layout.data.write 1.0 = "1.0" := by
    change "" ++ Decimal.Layout.data.magnitude
      (Decimal.Binary.shortest ⟨4503599627370496, -52, true⟩ .toEven) = _
    rw [digits]
    rfl
  rw [Legible, written]
  rfl

theorem legible_ofFloat {number : Float} (legible : (Json.float number).Legible) :
    (ofFloat number).Legible := by
  unfold ofFloat
  split
  · exact legible
  · trivial

theorem legible_ofDict {dict : Dict Json}
    (each : ∀ key value, dict.get? key = some value → value.Legible) : (ofDict dict).Legible :=
  ⟨dict.ordered, legibleFields_iff.mpr fun field inside =>
    each field.1 field.2 ((dict.get?_eq_some_iff _ _).mpr inside)⟩

end Encoded

theorem reads_null : Reads .null "null".toList := by
  intro fuel rest enough _
  cases fuel with
  | zero => cases enough
  | succ fuel => exact ⟨rest, rfl, rfl⟩

theorem reads_bool (flag : Bool) :
    Reads (.bool flag) (if flag then "true" else "false").toList := by
  intro fuel rest enough _
  cases fuel with
  | zero => cases flag <;> cases enough
  | succ fuel => cases flag <;> exact ⟨rest, rfl, rfl⟩

theorem reads_empty_list : Reads (.arr []) ['[', ']'] := by
  intro fuel rest enough _
  cases fuel with
  | zero => cases enough
  | succ fuel => exact ⟨rest, rfl, rfl⟩

theorem reads_empty_object : Reads (.obj []) ['\x7b', '\x7d'] := by
  intro fuel rest enough _
  cases fuel with
  | zero => cases enough
  | succ fuel => exact ⟨rest, rfl, rfl⟩

mutual

/-- The compact text of a value is read as that value. -/
theorem reads_compact (value : Json) (legible : value.Legible) :
    Reads value value.compact.toList := by
  cases value with
  | null => exact reads_null
  | bool flag => exact reads_bool flag
  | int number => exact reads_int legible.1 legible.2
  | float number => exact reads_float legible
  | str text => exact reads_str text
  | arr items =>
    cases items with
    | nil => exact reads_empty_list
    | cons item rest =>
      have reads := reads_compactMoreItems rest legible.2 (reads_compact item legible.1)
      simp only [compact, compactItems, String.toList_append]
      exact reads.list
  | obj fields =>
    cases fields with
    | nil => exact reads_empty_object
    | cons field rest =>
      obtain ⟨key, value⟩ := field
      have reads := reads_compactMoreFields rest legible.2.2 key (reads_compact value legible.2.1)
      have object := reads.object legible.1
      simp only [compact, compactFields, String.toList_append, List.append_assoc,
        List.cons_append] at object ⊢
      exact object

theorem reads_compactMoreItems (items : List Json) (legible : Legible.LegibleItems items)
    {item : Json} {chars : List Char} (reads : Reads item chars) :
    ReadsItems (item :: items) (chars ++ (compactMoreItems items).toList) := by
  cases items with
  | nil => exact reads.last_item nofun
  | cons next rest =>
    have others := reads_compactMoreItems rest legible.2 (reads_compact next legible.1)
    simp only [compactMoreItems, String.toList_append, List.append_assoc]
    exact reads.item others

theorem reads_compactMoreFields (fields : List (String × Json))
    (legible : Legible.LegibleFields fields) (key : String) {value : Json} {chars : List Char}
    (reads : Reads value chars) :
    ReadsFields ((key, value) :: fields)
      ((quote key).toList ++ ':' :: (chars ++ (compactMoreFields fields).toList)) := by
  cases fields with
  | nil => exact reads.last_field key nofun
  | cons field rest =>
    obtain ⟨next, value⟩ := field
    have others := reads_compactMoreFields rest legible.2 next (reads_compact value legible.1)
    simp only [compactMoreFields, String.toList_append, List.append_assoc] at others ⊢
    exact reads.field key others

end

theorem Reads.ofText? {value : Json} {text : String} (reads : Reads value text.toList) :
    ofText? text = some value := by
  obtain ⟨after, found, passed⟩ := reads (2 * text.toList.length + 2) [] (by omega) endsNumber_nil
  rw [List.append_nil] at found
  simp only [Json.ofText?, found, passed]
  rfl

theorem ofText?_compact {value : Json} (legible : value.Legible) :
    ofText? value.compact = some value := (reads_compact value legible).ofText?

/-! On lines of their own. -/

theorem newLine_layout (level : Nat) : ∀ char ∈ (newLine level).toList, isLayout char = true := by
  intro char inside
  rw [newLine, String.toList_append, List.mem_append] at inside
  rcases inside with line | blank
  · obtain rfl := List.mem_singleton.mp line
    rfl
  · rw [String.toList_ofList] at blank
    obtain rfl := List.eq_of_mem_replicate blank
    rfl

theorem blank_layout : ∀ char ∈ [' '], isLayout char = true := by simp [isLayout]

mutual

/-- The text on several lines of a value is read as that value. -/
theorem reads_indented (level : Nat) (value : Json) (legible : value.Legible) :
    Reads value (value.indented level).toList := by
  cases value with
  | null | bool | int | float | str =>
    rw [indented]
    · exact reads_compact _ legible
    · exact nofun
    · exact nofun
  | arr items =>
    cases items with
    | nil =>
      rw [indented]
      · exact reads_empty_list
      · exact nofun
      · exact nofun
    | cons item rest =>
      have reads := reads_indentedMoreItems (level + 1) rest legible.2
        ((reads_indented (level + 1) item legible.1).layout (newLine_layout (level + 1)))
        (newLine_layout level)
      have list := reads.list
      simp only [indented, String.toList_append, List.append_assoc] at list ⊢
      exact list
  | obj fields =>
    cases fields with
    | nil =>
      rw [indented]
      · exact reads_empty_object
      · exact nofun
      · exact nofun
    | cons field rest =>
      obtain ⟨key, value⟩ := field
      have reads := reads_indentedMoreFields (level + 1) rest legible.2.2 key
        ((reads_indented (level + 1) value legible.2.1).layout blank_layout)
        (newLine_layout level)
      have object := (reads.layout (newLine_layout (level + 1))).object legible.1
      simp only [indented, String.toList_append, List.append_assoc, List.cons_append] at object ⊢
      exact object

theorem reads_indentedMoreItems (level : Nat) (items : List Json)
    (legible : Legible.LegibleItems items) {item : Json} {chars blanks : List Char}
    (reads : Reads item chars) (layout : ∀ char ∈ blanks, isLayout char = true) :
    ReadsItems (item :: items) (chars ++ ((indentedMoreItems level items).toList ++ blanks)) := by
  cases items with
  | nil => exact reads.last_item layout
  | cons next rest =>
    have others := reads_indentedMoreItems level rest legible.2
      ((reads_indented level next legible.1).layout (newLine_layout level)) layout
    simp only [indentedMoreItems, String.toList_append, List.append_assoc] at others ⊢
    exact reads.item others

theorem reads_indentedMoreFields (level : Nat) (fields : List (String × Json))
    (legible : Legible.LegibleFields fields) (key : String) {value : Json}
    {chars blanks : List Char} (reads : Reads value chars)
    (layout : ∀ char ∈ blanks, isLayout char = true) :
    ReadsFields ((key, value) :: fields)
      ((quote key).toList ++
        ':' :: (chars ++ ((indentedMoreFields level fields).toList ++ blanks))) := by
  cases fields with
  | nil => exact reads.last_field key layout
  | cons field rest =>
    obtain ⟨next, value⟩ := field
    have others := (reads_indentedMoreFields level rest legible.2 next
      ((reads_indented level value legible.1).layout blank_layout) layout).layout
        (newLine_layout level)
    simp only [indentedMoreFields, String.toList_append, List.append_assoc,
      List.cons_append] at others ⊢
    exact reads.field key others

end

theorem ofText?_indented (level : Nat) {value : Json} (legible : value.Legible) :
    ofText? (value.indented level) = some value := (reads_indented level value legible).ofText?

/-- Values of a type survive being printed, in one line or on several. -/
structure TextSurvives {α : Type} (encode : α → Json) (decode : Json → Option α)
    (printable : α → Prop) : Prop where
  compact : ∀ item, printable item → (ofText? (encode item).compact).bind decode = some item
  indented : ∀ level item, printable item →
    (ofText? ((encode item).indented level)).bind decode = some item

theorem TextSurvives.of_reads {α : Type} {encode : α → Json} {decode : Json → Option α}
    {printable : α → Prop}
    (reads : ∀ {item : α}, printable item → decode (encode item) = some item)
    (prints : ∀ {item : α}, printable item → (encode item).Legible) :
    TextSurvives encode decode printable where
  compact := by
    intro item holds
    rw [ofText?_compact (prints holds)]
    exact reads holds
  indented := by
    intro level item holds
    rw [ofText?_indented level (prints holds)]
    exact reads holds

end Switchyard.Json
