import Switchyard.Json.Reader
set_option autoImplicit false

/-! Numbers of a TOML document. Single underscores may stand between digits. A whole number has to
fit 64 bits with a sign; a fraction or an exponent makes a number fractional. -/
namespace Switchyard.Toml

/-- At least one digit, without the underscores between digits. -/
def readDigits (isDigit : Char → Bool) : List Char → Option (List Char × List Char)
  | [] => none
  | [last] => if isDigit last then some ([last], []) else none
  | first :: '_' :: rest =>
    if isDigit first then
      (readDigits isDigit rest).map fun (digits, after) => (first :: digits, after)
    else none
  | first :: second :: rest =>
    if !isDigit first then none
    else if isDigit second then
      (readDigits isDigit (second :: rest)).map fun (digits, after) => (first :: digits, after)
    else some ([first], second :: rest)

/-- The digits of a base that is written with a letter. -/
structure Base where
  size : Nat
  isDigit : Char → Bool

def baseOf? : Char → Option Base
  | 'x' => some ⟨16, fun char => (Json.hexValue? char).isSome⟩
  | 'o' => some ⟨8, fun char => '0' ≤ char && char ≤ '7'⟩
  | 'b' => some ⟨2, fun char => '0' ≤ char && char ≤ '1'⟩
  | _ => none

def whole? (number : Int) : Option Json :=
  if Json.smallestWhole ≤ number && number ≤ Json.largestSigned then some (.int number)
  else none

/-- A number in another base, after its zero and its letter. -/
def readInBase (base : Base) (chars : List Char) : Option (Json × List Char) := do
  let (digits, rest) ← readDigits base.isDigit chars
  let number := digits.foldl (fun number digit =>
    number * base.size + (Json.hexValue? digit).getD 0) 0
  return (← whole? number, rest)

/-- The fraction digits after a point, if there is one. -/
def readFraction : List Char → Option (Option (List Char) × List Char)
  | '.' :: rest => (readDigits Json.isDigit rest).map fun (digits, after) => (some digits, after)
  | chars => some (none, chars)

/-- Whether a sign makes what follows negative; no sign is like a plus. -/
def readSign : List Char → Bool × List Char
  | '-' :: rest => (true, rest)
  | '+' :: rest => (false, rest)
  | chars => (false, chars)

def readExponent : List Char → Option (Option Int × List Char)
  | [] => some (none, [])
  | mark :: rest =>
    if mark = 'e' || mark = 'E' then do
      let (negative, rest) := readSign rest
      let (digits, after) ← readDigits Json.isDigit rest
      let size : Int := Json.digitsValue digits
      return (some (if negative then -size else size), after)
    else some (none, mark :: rest)

/-- The value of a number's parts. A fractional number beyond the doubles is refused, but far
below them it is the negative infinity. -/
def valueOf? (negative : Bool) (whole : List Char) (fraction : Option (List Char))
    (exponent : Option Int) : Option Json :=
  match fraction, exponent with
  | none, none =>
    let number : Int := Json.digitsValue whole
    whole? (if negative then -number else number)
  | _, _ =>
    let places := fraction.getD []
    let size := Decimal.read (Json.digitsValue (whole ++ places)) (exponent.getD 0 - places.length)
    if negative then some (.float (-size))
    else if size.isInf then none
    else some (.float size)

def readDecimal (negative : Bool) (chars : List Char) : Option (Json × List Char) := do
  let (whole, rest) ← readDigits Json.isDigit chars
  guard (whole.head? ≠ some '0' || whole.length = 1)
  let (fraction, rest) ← readFraction rest
  let (exponent, rest) ← readExponent rest
  return (← valueOf? negative whole fraction exponent, rest)

/-- A number after its sign. -/
def readUnsigned (negative : Bool) : List Char → Option (Json × List Char)
  | 'i' :: 'n' :: 'f' :: rest => some (.float (if negative then -1.0 / 0.0 else 1.0 / 0.0), rest)
  | 'n' :: 'a' :: 'n' :: rest => some (.float (0.0 / 0.0), rest)
  | chars => readDecimal negative chars

/-- A number; only one without a sign can be in another base. -/
def readNumber? (chars : List Char) : Option (Json × List Char) :=
  let signed := readUnsigned (readSign chars).1 (readSign chars).2
  match chars with
  | '0' :: letter :: rest =>
    match baseOf? letter with
    | some base => readInBase base rest
    | none => signed
  | _ => signed

end Switchyard.Toml
