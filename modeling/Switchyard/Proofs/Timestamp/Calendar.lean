import Mathlib.Order.Monotone.Basic
import Mathlib.Tactic.IntervalCases
import Switchyard.Timestamp
set_option autoImplicit false

/-! Day numbers and dates. The year of a day within its era of 400 years is found by a quotient that
grows with the day, so that it is enough to know it at the first and the last day of every year.
Main statements: `Date.dayNumber_ofDayNumber`, the date of a day number has that day number, and
`Date.isValid_ofDayNumber`, it stands in the calendar. -/
namespace Switchyard.Date

/-- The year of an era that a day of the era lies in; years begin in March. -/
def yearOfEra (day : Nat) : Nat := (day - day / 1460 + day / 36524 - day / 146096) / 365

/-- The day of its era on which a year begins. -/
def yearStart (year : Nat) : Nat := 365 * year + year / 4 - year / 100 + year / 400

theorem yearOfEra_mono : Monotone yearOfEra := by
  apply monotone_nat_of_le_succ
  intro day
  apply Nat.div_le_div_right
  omega

set_option maxRecDepth 4000 in
theorem yearOfEra_ends : ∀ year < 400, yearOfEra (yearStart year) = year ∧
    yearOfEra (yearStart (year + 1) - 1) = year := by decide

theorem yearOfEra_spec {day : Nat} (inEra : day < 146097) :
    yearOfEra day < 400 ∧ yearStart (yearOfEra day) ≤ day ∧
      day < yearStart (yearOfEra day + 1) := by
  have last : yearOfEra 146096 = 399 := by decide
  have below : yearOfEra day ≤ yearOfEra 146096 := yearOfEra_mono (by omega)
  refine ⟨by omega, ?_, ?_⟩
  · by_contra early
    cases year : yearOfEra day with
    | zero =>
      rw [year] at early
      exact early (Nat.zero_le day)
    | succ before =>
      rw [year] at early
      have earlier : yearOfEra day ≤ yearOfEra (yearStart (before + 1) - 1) :=
        yearOfEra_mono (by omega)
      have ends := (yearOfEra_ends before (by omega)).2
      omega
  · by_contra late
    by_cases next : yearOfEra day + 1 < 400
    · have later : yearOfEra (yearStart (yearOfEra day + 1)) ≤ yearOfEra day :=
        yearOfEra_mono (by omega)
      have begins := (yearOfEra_ends _ next).1
      omega
    · have whole : yearStart (399 + 1) = 146097 := by decide
      rw [show yearOfEra day = 399 by omega] at late
      omega

theorem isLeap_era (era : Int) (year : Nat) :
    isLeap (era * 400 + year) = true ↔ year % 4 = 0 ∧ (year % 100 ≠ 0 ∨ year % 400 = 0) := by
  have four : (era * 400 + year) % 4 = 0 ↔ year % 4 = 0 := by omega
  have hundred : (era * 400 + year) % 100 = 0 ↔ year % 100 = 0 := by omega
  have whole : (era * 400 + year) % 400 = 0 ↔ year % 400 = 0 := by omega
  unfold isLeap
  rw [Bool.and_eq_true, Bool.or_eq_true, decide_eq_true_iff, decide_eq_true_iff,
    decide_eq_true_iff, four, ne_eq, hundred, whole]

theorem yearStart_succ (era : Int) (year : Nat) :
    yearStart (year + 1) =
      yearStart year + if isLeap (era * 400 + year + 1) then 366 else 365 := by
  have leap := isLeap_era era (year + 1)
  rw [Int.natCast_succ, ← Int.add_assoc] at leap
  have four : (year + 1) / 4 = year / 4 + if (year + 1) % 4 = 0 then 1 else 0 := by
    split <;> omega
  have hundred : (year + 1) / 100 = year / 100 + if (year + 1) % 100 = 0 then 1 else 0 := by
    split <;> omega
  have whole : (year + 1) / 400 = year / 400 + if (year + 1) % 400 = 0 then 1 else 0 := by
    split <;> omega
  have enough : year / 100 ≤ year / 4 := Nat.div_le_div_left (by decide) (by decide)
  have hundredIsFour : (year + 1) % 100 = 0 → (year + 1) % 4 = 0 := by omega
  have wholeIsHundred : (year + 1) % 400 = 0 → (year + 1) % 100 = 0 := by omega
  simp only [yearStart, leap, four, hundred, whole]
  by_cases byFour : (year + 1) % 4 = 0
  · by_cases byHundred : (year + 1) % 100 = 0
    · by_cases byAll : (year + 1) % 400 = 0
      · simp only [byFour, byHundred, byAll, ↓reduceIte, ne_eq, not_true_eq_false, or_true,
          and_self]
        omega
      · simp only [byFour, byHundred, byAll, ↓reduceIte, Nat.add_zero, ne_eq, not_true_eq_false,
          or_self, and_false]
        omega
    · simp only [byFour, byHundred, mt wholeIsHundred byHundred, ↓reduceIte, Nat.add_zero, ne_eq,
        not_false_eq_true, or_false, and_self]
      omega
  · have notHundred := mt hundredIsFour byFour
    simp only [byFour, notHundred, mt wholeIsHundred notHundred, ↓reduceIte, Nat.add_zero, ne_eq,
      not_false_eq_true, or_false, and_true]
    omega

/-- How the date of a day number comes about: its era, the year in it and the day of that year,
with months counted from March. -/
theorem ofDayNumber_parts (number : Int) : ∃ (era : Int) (year dayOfYear fromMarch : Nat),
    number + 719468 = era * 146097 + yearStart year + dayOfYear ∧ year < 400 ∧
      (dayOfYear < if isLeap (era * 400 + year + 1) then 366 else 365) ∧
      fromMarch = (5 * dayOfYear + 2) / 153 ∧
      ofDayNumber number =
        ⟨if fromMarch < 10 then era * 400 + year else era * 400 + year + 1,
          if fromMarch < 10 then fromMarch + 3 else fromMarch - 9,
          dayOfYear - daysBeforeMonth fromMarch + 1⟩ := by
  have inEra : ((number + 719468) % 146097).toNat < 146097 := by omega
  obtain ⟨inRange, begun, notOver⟩ := yearOfEra_spec inEra
  generalize isDay : ((number + 719468) % 146097).toNat = day at *
  generalize isYear : yearOfEra day = year at *
  rw [yearStart_succ ((number + 719468) / 146097)] at notOver
  have start : yearStart year = 365 * year + year / 4 - year / 100 := by
    rw [yearStart, Nat.div_eq_of_lt inRange, Nat.add_zero]
  refine ⟨(number + 719468) / 146097, year, day - yearStart year, _, by omega, inRange, by omega,
    rfl, ?_⟩
  unfold ofDayNumber
  simp only [isDay]
  rw [show (day - day / 1460 + day / 36524 - day / 146096) / 365 = year from isYear, ← start]
  by_cases spring : (5 * (day - yearStart year) + 2) / 153 < 10
  · simp only [spring, if_true]
    rw [if_neg (by omega)]
  · have : (5 * (day - yearStart year) + 2) / 153 ≤ 11 := by
      split at notOver <;> omega
    simp only [spring, if_false]
    rw [if_pos (by omega)]

/-- The date of a day number has that day number. -/
theorem dayNumber_ofDayNumber (number : Int) : (ofDayNumber number).dayNumber = number := by
  obtain ⟨era, year, dayOfYear, fromMarch, parts, inRange, inYear, isMonth, isDate⟩ :=
    ofDayNumber_parts number
  have early : daysBeforeMonth fromMarch ≤ dayOfYear := by
    unfold daysBeforeMonth
    omega
  have last : fromMarch ≤ 11 := by
    split at inYear <;> omega
  have marchYear : 365 * (era * 400 + year) + (era * 400 + year) / 4 - (era * 400 + year) / 100 +
      (era * 400 + year) / 400 = era * 146097 + yearStart year := by
    unfold yearStart
    omega
  rw [isDate, dayNumber]
  by_cases spring : fromMarch < 10
  · have late : ¬ fromMarch + 3 ≤ 2 := by omega
    simp only [spring, late, if_true, if_false, Nat.add_sub_cancel]
    omega
  · have late : fromMarch - 9 ≤ 2 := by omega
    have month : fromMarch - 9 + 9 = fromMarch := by omega
    simp only [spring, late, month, if_true, if_false, Int.add_sub_cancel]
    omega

theorem daysBeforeMonth_succ (year : Int) {fromMarch : Nat} (notLast : fromMarch < 11) :
    daysBeforeMonth (fromMarch + 1) = daysBeforeMonth fromMarch +
      daysInMonth year (if fromMarch < 10 then fromMarch + 3 else fromMarch - 9) := by
  interval_cases fromMarch <;> rfl

theorem isValid_ofDayNumber (number : Int) : (ofDayNumber number).isValid = true := by
  obtain ⟨era, year, dayOfYear, fromMarch, -, -, inYear, isMonth, isDate⟩ :=
    ofDayNumber_parts number
  have last : fromMarch ≤ 11 := by
    split at inYear <;> omega
  have month : 1 ≤ (if fromMarch < 10 then fromMarch + 3 else fromMarch - 9) ∧
      (if fromMarch < 10 then fromMarch + 3 else fromMarch - 9) ≤ 12 := by
    split <;> omega
  rw [isDate, isValid, Bool.and_eq_true, Bool.and_eq_true, Bool.and_eq_true, decide_eq_true_iff,
    decide_eq_true_iff, decide_eq_true_iff, decide_eq_true_iff]
  refine ⟨⟨month, Nat.le_add_left 1 _⟩, ?_⟩
  dsimp only
  by_cases notLast : fromMarch < 11
  · have early : daysBeforeMonth fromMarch ≤ dayOfYear := by
      unfold daysBeforeMonth
      omega
    have beyond : dayOfYear < daysBeforeMonth (fromMarch + 1) := by
      unfold daysBeforeMonth
      omega
    rw [daysBeforeMonth_succ (if fromMarch < 10 then era * 400 + year else era * 400 + year + 1)
      notLast] at beyond
    omega
  · -- The last month is the February of the next year.
    obtain rfl : fromMarch = 11 := by omega
    have begins : daysBeforeMonth 11 = 337 := by decide
    change dayOfYear - daysBeforeMonth 11 + 1 ≤
      if isLeap (era * 400 + year + 1) then 29 else 28
    rw [begins]
    split at inYear
    · rename_i leap
      rw [if_pos leap]
      omega
    · rename_i common
      rw [if_neg common]
      omega

theorem isValid_bounds {date : Date} (valid : date.isValid = true) :
    date.month ≤ 12 ∧ date.day ≤ 31 := by
  simp only [isValid, Bool.and_eq_true, decide_eq_true_eq] at valid
  have long : daysInMonth date.year date.month ≤ 31 := by
    unfold daysInMonth
    split
    · split <;> decide
    all_goals decide
  omega

end Switchyard.Date
