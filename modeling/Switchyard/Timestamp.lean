import Switchyard.Json.Codec
set_option autoImplicit false

/-! Instants of universal time in nanoseconds, their calendar date, and their written form: a date,
a time of day and as many fraction digits as needed out of 0, 3, 6 and 9. A minute may have a leap
second as its second number 60. -/
namespace Switchyard

/-- Nanoseconds since the start of 1970, leap seconds not counted. An instant in a leap second has
the count of the instant as far into the second before it, and is marked. -/
structure Timestamp where
  nanos : Int
  leap : Bool := false
  deriving Repr, DecidableEq, Inhabited

structure Date where
  year : Int
  month : Nat
  day : Nat
  deriving Repr, DecidableEq

namespace Date

def isLeap (year : Int) : Bool := year % 4 = 0 && (year % 100 ≠ 0 || year % 400 = 0)

def daysInMonth (year : Int) (month : Nat) : Nat :=
  match month with
  | 2 => if isLeap year then 29 else 28
  | 4 | 6 | 9 | 11 => 30
  | _ => 31

def isValid (date : Date) : Bool :=
  1 ≤ date.month && date.month ≤ 12 && 1 ≤ date.day &&
    date.day ≤ daysInMonth date.year date.month

/-- Days before the first of a month, counted from the first of March. -/
def daysBeforeMonth (fromMarch : Nat) : Nat := (153 * fromMarch + 2) / 5

/-- Days since the start of 1970. A year is taken to begin in March, so that the leap day is its
last one. -/
def dayNumber (date : Date) : Int :=
  let year := if date.month ≤ 2 then date.year - 1 else date.year
  let fromMarch := if date.month ≤ 2 then date.month + 9 else date.month - 3
  365 * year + year / 4 - year / 100 + year / 400 + (daysBeforeMonth fromMarch : Int) +
    (date.day : Int) - 1 - 719468

/-- The date with a day number: 146097 days make 400 years. -/
def ofDayNumber (number : Int) : Date :=
  let shifted := number + 719468
  let era := shifted / 146097
  let dayOfEra := (shifted % 146097).toNat
  let yearOfEra := (dayOfEra - dayOfEra / 1460 + dayOfEra / 36524 - dayOfEra / 146096) / 365
  let dayOfYear := dayOfEra - (365 * yearOfEra + yearOfEra / 4 - yearOfEra / 100)
  let fromMarch := (5 * dayOfYear + 2) / 153
  let day := dayOfYear - daysBeforeMonth fromMarch + 1
  let month := if fromMarch < 10 then fromMarch + 3 else fromMarch - 9
  let year := era * 400 + (yearOfEra : Int)
  ⟨if month ≤ 2 then year + 1 else year, month, day⟩

end Date

namespace Timestamp

/-- Milliseconds since the start of 1970; a leap second counts on from the second before it. -/
def millis (time : Timestamp) : Int :=
  time.nanos / 1000000 + if time.leap then 1000 else 0

def ofMillis (millis : Int) : Timestamp := { nanos := millis * 1000000 }

/-- Instants are ordered as these numbers are: a leap second lies behind the whole second before
it. -/
def rank (time : Timestamp) : Int :=
  time.nanos / 1000000000 * 2000000000 + time.nanos % 1000000000 +
    if time.leap then 1000000000 else 0

theorem millis_le_of_rank_le {earlier later : Timestamp} (ordinary : earlier.leap = false)
    (order : earlier.rank ≤ later.rank) : earlier.millis ≤ later.millis := by
  simp only [rank, ordinary, Bool.false_eq_true, if_false] at order
  simp only [millis, ordinary, Bool.false_eq_true, if_false]
  cases inLeap : later.leap with
  | false =>
    simp only [inLeap, Bool.false_eq_true, if_false] at order ⊢
    omega
  | true =>
    simp only [inLeap, if_true] at order ⊢
    omega

def nanosPerDay : Int := 86400 * 1000000000

/-- A number with leading zeros up to a width. -/
def padded (width number : Nat) : String :=
  let digits := Nat.toDigits 10 number
  String.ofList (List.replicate (width - digits.length) '0' ++ digits)

def fractionText (nanos : Nat) : String :=
  if nanos = 0 then ""
  else if nanos % 1000000 = 0 then "." ++ padded 3 (nanos / 1000000)
  else if nanos % 1000 = 0 then "." ++ padded 6 (nanos / 1000)
  else "." ++ padded 9 nanos

def text (time : Timestamp) : String :=
  let date := Date.ofDayNumber (time.nanos / nanosPerDay)
  let ofDay := (time.nanos % nanosPerDay).toNat
  let seconds := ofDay / 1000000000
  padded 4 date.year.toNat ++ "-" ++ padded 2 date.month ++ "-" ++ padded 2 date.day ++ "T" ++
    padded 2 (seconds / 3600) ++ ":" ++ padded 2 (seconds / 60 % 60) ++ ":" ++
    padded 2 (seconds % 60 + time.leap.toNat) ++ fractionText (ofDay % 1000000000) ++ "Z"

/-- The value of decimal digits; none if another character is among them. -/
def digits? (chars : List Char) : Option Nat :=
  chars.foldl (fun number char => do
    let number ← number
    if '0' ≤ char && char ≤ '9' then some (number * 10 + (char.toNat - 48)) else none) (some 0)

/-- Billionths from fraction digits; digits past the ninth are cut off. -/
def fraction? (chars : List Char) : Option Nat :=
  if chars.isEmpty then none
  else do
    let _ ← digits? chars
    digits? ((chars ++ List.replicate 9 '0').take 9)

/-- What follows the seconds: nothing or a fraction, then the mark of universal time. -/
def ending? (chars : List Char) : Option Nat :=
  match chars with
  | ['Z'] => some 0
  | '.' :: rest => if rest.getLast? = some 'Z' then fraction? rest.dropLast else none
  | _ => none

def ofText? (written : String) : Option Timestamp :=
  match written.toList with
  | y1 :: y2 :: y3 :: y4 :: '-' :: m1 :: m2 :: '-' :: d1 :: d2 :: 'T' ::
      h1 :: h2 :: ':' :: n1 :: n2 :: ':' :: s1 :: s2 :: rest => do
    let date : Date := ⟨(← digits? [y1, y2, y3, y4]), ← digits? [m1, m2], ← digits? [d1, d2]⟩
    let hour ← digits? [h1, h2]
    let minute ← digits? [n1, n2]
    let second ← digits? [s1, s2]
    let fraction ← ending? rest
    guard (date.isValid && hour ≤ 23 && minute ≤ 59 && second ≤ 60)
    let seconds := hour * 3600 + minute * 60 + min second 59
    return {
      nanos := date.dayNumber * nanosPerDay + ((seconds * 1000000000 + fraction : Nat) : Int)
      leap := second == 60 }
  | _ => none

def toJson (time : Timestamp) : Json := .str time.text

def ofJson? (value : Json) : Option Timestamp := value.asText?.bind ofText?

end Timestamp

end Switchyard
