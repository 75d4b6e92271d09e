import Switchyard.Proofs.Timestamp.Calendar
set_option autoImplicit false

/-! The written form of an instant. Main statement: `Timestamp.ofText?_text`, the text of an
instant of the years 0 to 9999 reads back as the same instant, whichever number of fraction
digits it has. -/
namespace Switchyard

namespace Timestamp

/-! Digits. -/

theorem digits?_append (chars more : List Char) :
    digits? (chars ++ more) = more.foldl (fun number char => do
      let number ← number
      if '0' ≤ char && char ≤ '9' then some (number * 10 + (char.toNat - 48)) else none)
        (digits? chars) :=
  List.foldl_append

theorem digits?_eq {chars : List Char} (digits : ∀ char ∈ chars, char.isDigit = true) :
    digits? chars = some (Nat.ofDigitChars 10 chars 0) := by
  unfold digits?
  generalize 0 = start
  induction chars generalizing start with
  | nil => rfl
  | cons char rest ih =>
    obtain ⟨digit, others⟩ := List.forall_mem_cons.mp digits
    have inRange : ('0' ≤ char && char ≤ '9') = true := digit
    rw [List.foldl_cons, Nat.ofDigitChars_cons, ← ih others, Nat.mul_comm 10]
    congr 1
    exact if_pos inRange

theorem digits?_zeros {chars : List Char} {number : Nat} (value : digits? chars = some number)
    (count : Nat) : digits? (chars ++ List.replicate count '0') = some (number * 10 ^ count) := by
  induction count with
  | zero => rw [List.replicate_zero, List.append_nil, value, Nat.pow_zero, Nat.mul_one]
  | succ count ih =>
    rw [List.replicate_succ', ← List.append_assoc, digits?_append, ih, Nat.pow_succ,
      ← Nat.mul_assoc]
    rfl

theorem padded_spec {width number : Nat} (positive : 0 < width) (fits : number < 10 ^ width) :
    ∃ chars : List Char, padded width number = String.ofList chars ∧ chars.length = width ∧
      digits? chars = some number := by
  have short := (Nat.length_toDigits_le_iff (b := 10) (by decide) positive).mpr fits
  refine ⟨_, rfl, ?_, ?_⟩
  · rw [List.length_append, List.length_replicate]
    omega
  · rw [digits?_eq, Nat.ofDigitChars_append, Nat.ofDigitChars_replicate_zero, Nat.mul_zero,
      Nat.ofDigitChars_ten_toDigits]
    intro char inside
    rcases List.mem_append.mp inside with zero | digit
    · rw [List.eq_of_mem_replicate zero]
      decide
    · exact Nat.isDigit_of_mem_toDigits (by decide) (by decide) digit

theorem padded_two {number : Nat} (fits : number < 100) :
    ∃ first second, padded 2 number = String.ofList [first, second] ∧
      digits? [first, second] = some number := by
  obtain ⟨chars, written, long, value⟩ := @padded_spec 2 number (by decide) fits
  match chars, long with
  | [first, second], _ => exact ⟨first, second, written, value⟩

theorem padded_four {number : Nat} (fits : number < 10000) :
    ∃ first second third fourth, padded 4 number = String.ofList [first, second, third, fourth] ∧
      digits? [first, second, third, fourth] = some number := by
  obtain ⟨chars, written, long, value⟩ := @padded_spec 4 number (by decide) fits
  match chars, long with
  | [first, second, third, fourth], _ => exact ⟨first, second, third, fourth, written, value⟩

/-! Fractions. -/

theorem ending?_digits {chars : List Char} {number : Nat} (present : 0 < chars.length)
    (short : chars.length ≤ 9) (value : digits? chars = some number) :
    ending? ('.' :: (chars ++ ['Z'])) = some (number * 10 ^ (9 - chars.length)) := by
  have kept : (chars ++ List.replicate 9 '0').take 9 =
      chars ++ List.replicate (9 - chars.length) '0' := by
    rw [List.take_append, List.take_of_length_le short, List.take_replicate,
      Nat.min_eq_left (Nat.sub_le 9 _)]
  have notEmpty : chars.isEmpty = false := by
    cases chars with
    | nil => cases present
    | cons => rfl
  simp only [ending?]
  rw [List.getLast?_concat, if_pos rfl, List.dropLast_concat, fraction?, notEmpty, value, kept]
  exact digits?_zeros value _

theorem ending?_fractionText {nanos : Nat} (small : nanos < 1000000000) :
    ending? ((fractionText nanos).toList ++ ['Z']) = some nanos := by
  -- As many digits are left out as there are zeros at the end.
  have reads : ∀ count number : Nat, 0 < count → count ≤ 9 → number < 10 ^ count →
      ending? (("." ++ padded count number).toList ++ ['Z']) =
        some (number * 10 ^ (9 - count)) := by
    intro count number present short fits
    obtain ⟨chars, written, long, value⟩ := padded_spec present fits
    rw [← long] at present short ⊢
    simp only [long, written, String.toList_append, String.toList_ofList]
    rw [← long]
    exact ending?_digits present short value
  unfold fractionText
  by_cases whole : nanos = 0
  · rw [if_pos whole, whole]
    rfl
  · rw [if_neg whole]
    by_cases millis : nanos % 1000000 = 0
    · rw [if_pos millis, reads 3 _ (by decide) (by decide) (by omega)]
      congr 1
      omega
    · rw [if_neg millis]
      by_cases micros : nanos % 1000 = 0
      · rw [if_pos micros, reads 6 _ (by decide) (by decide) (by omega)]
        congr 1
        omega
      · rw [if_neg micros, reads 9 _ (by decide) (by decide) (by omega)]
        congr 1
        omega

/-! Whole instants. -/

def year (time : Timestamp) : Int := (Date.ofDayNumber (time.nanos / nanosPerDay)).year

/-- An instant whose text is of the usual form: a year of four digits and no leap second. -/
structure Writable (time : Timestamp) : Prop where
  early : 0 ≤ time.year
  late : time.year ≤ 9999
  noLeap : time.leap = false

theorem clock_parts {ofDay : Nat} (short : ofDay < 86400 * 1000000000) :
    ofDay / 1000000000 / 3600 ≤ 23 ∧ ofDay / 1000000000 / 60 % 60 ≤ 59 ∧
      ofDay / 1000000000 % 60 ≤ 59 ∧ ofDay % 1000000000 < 1000000000 ∧
      (ofDay / 1000000000 / 3600 * 3600 + ofDay / 1000000000 / 60 % 60 * 60 +
        ofDay / 1000000000 % 60) * 1000000000 + ofDay % 1000000000 = ofDay := by
  omega

theorem exists_toList_text {time : Timestamp} (writable : time.Writable) {date : Date}
    (isDate : Date.ofDayNumber (time.nanos / nanosPerDay) = date) {ofDay : Nat}
    (isTime : (time.nanos % nanosPerDay).toNat = ofDay) (short : ofDay < 86400 * 1000000000) :
    ∃ y1 y2 y3 y4 m1 m2 d1 d2 h1 h2 n1 n2 s1 s2 : Char,
      time.text.toList = y1 :: y2 :: y3 :: y4 :: '-' :: m1 :: m2 :: '-' :: d1 :: d2 :: 'T' ::
        h1 :: h2 :: ':' :: n1 :: n2 :: ':' :: s1 :: s2 ::
          ((fractionText (ofDay % 1000000000)).toList ++ ['Z']) ∧
      digits? [y1, y2, y3, y4] = some date.year.toNat ∧ digits? [m1, m2] = some date.month ∧
      digits? [d1, d2] = some date.day ∧ digits? [h1, h2] = some (ofDay / 1000000000 / 3600) ∧
      digits? [n1, n2] = some (ofDay / 1000000000 / 60 % 60) ∧
      digits? [s1, s2] = some (ofDay / 1000000000 % 60) := by
  obtain ⟨-, late, noLeap⟩ := writable
  obtain ⟨month, day⟩ := Date.isValid_bounds (Date.isValid_ofDayNumber (time.nanos / nanosPerDay))
  obtain ⟨hour, minute, second, -⟩ := clock_parts short
  unfold year at late
  rw [isDate] at late month day
  obtain ⟨y1, y2, y3, y4, writtenYear, isYear⟩ := @padded_four date.year.toNat (by omega)
  obtain ⟨m1, m2, writtenMonth, isMonth⟩ := @padded_two date.month (by omega)
  obtain ⟨d1, d2, writtenDay, isDay⟩ := @padded_two date.day (by omega)
  obtain ⟨h1, h2, writtenHour, isHour⟩ := @padded_two (ofDay / 1000000000 / 3600) (by omega)
  obtain ⟨n1, n2, writtenMinute, isMinute⟩ :=
    @padded_two (ofDay / 1000000000 / 60 % 60) (by omega)
  obtain ⟨s1, s2, writtenSecond, isSecond⟩ := @padded_two (ofDay / 1000000000 % 60) (by omega)
  refine ⟨y1, y2, y3, y4, m1, m2, d1, d2, h1, h2, n1, n2, s1, s2, ?_, isYear, isMonth, isDay,
    isHour, isMinute, isSecond⟩
  have dash : "-".toList = ['-'] := rfl
  have middle : "T".toList = ['T'] := rfl
  have colon : ":".toList = [':'] := rfl
  have mark : "Z".toList = ['Z'] := rfl
  unfold text
  rw [isDate, isTime, noLeap, Bool.toNat_false]
  dsimp only
  rw [Nat.add_zero, writtenYear, writtenMonth, writtenDay, writtenHour, writtenMinute, writtenSecond]
  simp only [String.toList_append, String.toList_ofList, dash, middle, colon, mark,
    List.cons_append, List.nil_append]

theorem ofDay_lt (nanos : Int) : (nanos % nanosPerDay).toNat < 86400 * 1000000000 := by
  have short : nanos % nanosPerDay < nanosPerDay := Int.emod_lt_of_pos _ (by decide)
  unfold nanosPerDay at short ⊢
  omega

/-- The text of an instant reads back as the same instant. -/
theorem ofText?_text {time : Timestamp} (writable : time.Writable) :
    ofText? time.text = some time := by
  have short := ofDay_lt time.nanos
  have stands := Date.isValid_ofDayNumber (time.nanos / nanosPerDay)
  have sameDay := Date.dayNumber_ofDayNumber (time.nanos / nanosPerDay)
  have parts := exists_toList_text writable rfl rfl short
  have early : 0 ≤ (Date.ofDayNumber (time.nanos / nanosPerDay)).year := writable.early
  have whole : time.nanos / nanosPerDay * nanosPerDay + ((time.nanos % nanosPerDay).toNat : Int) =
      time.nanos := by
    rw [Int.toNat_of_nonneg (Int.emod_nonneg _ (by decide))]
    exact Int.ediv_mul_add_emod time.nanos nanosPerDay
  generalize Date.ofDayNumber (time.nanos / nanosPerDay) = date at *
  generalize (time.nanos % nanosPerDay).toNat = ofDay at *
  obtain ⟨y1, y2, y3, y4, m1, m2, d1, d2, h1, h2, n1, n2, s1, s2, written, isYear, isMonth, isDay,
    isHour, isMinute, isSecond⟩ := parts
  obtain ⟨hour, minute, second, fraction, together⟩ := clock_parts short
  have isFraction := ending?_fractionText fraction
  have same : Date.mk date.year.toNat date.month date.day = date := by
    rw [Int.toNat_of_nonneg early]
  have inRange : (date.isValid && decide (ofDay / 1000000000 / 3600 ≤ 23) &&
      decide (ofDay / 1000000000 / 60 % 60 ≤ 59) &&
      decide (ofDay / 1000000000 % 60 ≤ 60)) = true := by
    simp only [stands, Bool.true_and, Bool.and_eq_true, decide_eq_true_eq]
    omega
  have ordinary : (ofDay / 1000000000 % 60 == 60) = time.leap := by
    rw [writable.noLeap, beq_eq_false_iff_ne]
    omega
  simp only [ofText?, written, isYear, isMonth, isDay, isHour, isMinute, isSecond, isFraction,
    Option.bind_eq_bind, Option.bind_some, same, inRange, ordinary, sameDay, guard, if_true,
    Option.pure_def, Nat.min_eq_left second, together, whole]

theorem length_fractionText {nanos : Nat} (small : nanos < 1000000000) :
    (fractionText nanos).length ∈ [0, 4, 7, 10] := by
  have long : ∀ count number : Nat, 0 < count → number < 10 ^ count →
      ("." ++ padded count number).length = count + 1 := by
    intro count number present fits
    obtain ⟨chars, written, size, -⟩ := padded_spec present fits
    have point : ".".length = 1 := rfl
    rw [written, String.length_append, point, String.length_ofList, size]
    exact Nat.add_comm 1 count
  unfold fractionText
  split
  · decide
  · split
    · rw [long 3 _ (by decide) (by omega)]
      decide
    · split
      · rw [long 6 _ (by decide) (by omega)]
        decide
      · rw [long 9 _ (by decide) (by omega)]
        decide

theorem length_text {time : Timestamp} (writable : time.Writable) :
    time.text.length ∈ [20, 24, 27, 30] := by
  obtain ⟨y1, y2, y3, y4, m1, m2, d1, d2, h1, h2, n1, n2, s1, s2, written, -⟩ :=
    exists_toList_text writable rfl rfl (ofDay_lt time.nanos)
  have fraction := length_fractionText
    (Nat.mod_lt (time.nanos % nanosPerDay).toNat (by decide : 0 < 1000000000))
  rw [← String.length_toList, written]
  simp only [List.length_cons, List.length_append, String.length_toList, List.length_nil]
  simp only [List.mem_cons, List.not_mem_nil, or_false] at fraction ⊢
  omega

example : text { nanos := 1500000000 } = "1970-01-01T00:00:01.500Z" := by rfl

theorem ofJson?_toJson {time : Timestamp} (writable : time.Writable) :
    ofJson? time.toJson = some time := by
  rw [toJson, ofJson?, Json.asText?, Option.bind_some]
  exact ofText?_text writable

end Timestamp

end Switchyard
