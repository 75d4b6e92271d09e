import Switchyard.Timestamp
set_option autoImplicit false

/-! Dates and times of a TOML document: a date, a time of day, or both with an optional offset. They
are kept as one text in a single spelling. -/
namespace Switchyard.Toml

structure TimeOfDay where
  hour : Nat
  minute : Nat
  second : Nat
  nanos : Nat
  deriving Repr, DecidableEq

/-- How far a time is ahead of universal time. -/
inductive Offset where
  | universal
  | minutes (ahead : Int)
  deriving Repr, DecidableEq

inductive Moment where
  | day (date : Date)
  | clock (time : TimeOfDay)
  | both (date : Date) (time : TimeOfDay) (offset : Option Offset)
  deriving Repr, DecidableEq

open Timestamp (padded digits? fraction?)

/-- Fraction digits up to the last that is not zero. -/
def fractionText (nanos : Nat) : String :=
  if nanos = 0 then ""
  else "." ++ String.ofList ((padded 9 nanos).toList.reverse.dropWhile (· = '0')).reverse

def dateText (date : Date) : String :=
  padded 4 date.year.toNat ++ "-" ++ padded 2 date.month ++ "-" ++ padded 2 date.day

def TimeOfDay.text (time : TimeOfDay) : String :=
  padded 2 time.hour ++ ":" ++ padded 2 time.minute ++ ":" ++ padded 2 time.second ++
    fractionText time.nanos

def Offset.text : Offset → String
  | .universal => "Z"
  | .minutes ahead =>
    (if ahead < 0 then "-" else "+") ++ padded 2 (ahead.natAbs / 60) ++ ":" ++
      padded 2 (ahead.natAbs % 60)

def Moment.text : Moment → String
  | .day date => dateText date
  | .clock time => time.text
  | .both date time offset =>
    dateText date ++ "T" ++ time.text ++ ((offset.map Offset.text).getD "")

/-- A number of exactly two digits up to a bound. -/
def readPair (bound : Nat) : List Char → Option (Nat × List Char)
  | a :: b :: rest => do
    let number ← digits? [a, b]
    guard (number ≤ bound)
    return (number, rest)
  | _ => none

def readColon : List Char → Option (List Char)
  | ':' :: rest => some rest
  | _ => none

/-- Billionths of a second after a point; without a point there are none. -/
def readNanos : List Char → Option (Nat × List Char)
  | '.' :: rest => do
    let isDigit (char : Char) : Bool := '0' ≤ char && char ≤ '9'
    return (← fraction? (rest.takeWhile isDigit), rest.dropWhile isDigit)
  | chars => some (0, chars)

/-- A time of day; a minute may have a leap second. -/
def readTime (chars : List Char) : Option (TimeOfDay × List Char) := do
  let (hour, rest) ← readPair 23 chars
  let (minute, rest) ← readPair 59 (← readColon rest)
  let (second, rest) ← readPair 60 (← readColon rest)
  let (nanos, rest) ← readNanos rest
  return (⟨hour, minute, second, nanos⟩, rest)

def readDate : List Char → Option (Date × List Char)
  | y1 :: y2 :: y3 :: y4 :: '-' :: m1 :: m2 :: '-' :: d1 :: d2 :: rest => do
    let date : Date := ⟨(← digits? [y1, y2, y3, y4]), ← digits? [m1, m2], ← digits? [d1, d2]⟩
    guard date.isValid
    return (date, rest)
  | _ => none

/-- An offset, if a sign or the mark of universal time stands there. -/
def readOffset : List Char → Option (Option Offset × List Char)
  | [] => some (none, [])
  | sign :: rest =>
    if sign = 'Z' || sign = 'z' then some (some .universal, rest)
    else if sign = '+' || sign = '-' then do
      let (hour, rest) ← readPair 23 rest
      let (minute, rest) ← readPair 59 (← readColon rest)
      let ahead : Int := (hour * 60 + minute : Nat)
      return (some (.minutes (if sign = '-' then -ahead else ahead)), rest)
    else some (none, sign :: rest)

def separatesTime (char : Char) : Bool := char = 'T' || char = 't' || char = ' '

/-- A date, and a time if one follows. -/
def readDated (chars : List Char) : Option (Moment × List Char) := do
  let (date, rest) ← readDate chars
  match rest with
  | separator :: more =>
    if separatesTime separator then
      match readTime more with
      | some (time, after) =>
        let (offset, after) ← readOffset after
        return (.both date time offset, after)
      | none => return (.day date, rest)
    else return (.day date, rest)
  | [] => return (.day date, rest)

def readMoment? (chars : List Char) : Option (Moment × List Char) :=
  (readDated chars).or ((readTime chars).map fun (time, rest) => (.clock time, rest))

/-- The one field of the object that stands for a moment. -/
def momentKey : String := "$__toml_private_datetime"

def Moment.toJson (moment : Moment) : Json := .obj [(momentKey, .str moment.text)]

end Switchyard.Toml
