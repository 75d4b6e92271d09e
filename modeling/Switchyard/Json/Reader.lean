import Switchyard.Json.Basic
import Switchyard.Decimal.Text
set_option autoImplicit false

/-! Reading a value from its text; every step returns what it found and the text after it. Whole
numbers that fit 64 bits stay whole; every other number becomes the nearest double. -/
namespace Switchyard.Json

def isLayout (char : Char) : Bool :=
  char = ' ' || char = '\n' || char = '\r' || char = '\t'

def skipLayout (chars : List Char) : List Char := chars.dropWhile isLayout

def hexValue? (char : Char) : Option Nat :=
  if '0' ≤ char && char ≤ '9' then some (char.toNat - 48)
  else if 'a' ≤ char && char ≤ 'f' then some (char.toNat - 87)
  else if 'A' ≤ char && char ≤ 'F' then some (char.toNat - 55)
  else none

def hexNumber? (chars : List Char) : Option Nat :=
  chars.foldl (fun number char => do return (← number) * 16 + (← hexValue? char)) (some 0)

def readUnit : List Char → Option (Nat × List Char)
  | a :: b :: c :: d :: rest => do return (← hexNumber? [a, b, c, d], rest)
  | _ => none

def charOf? (code : Nat) : Option Char :=
  if valid : code.isValidChar then some (Char.ofNatAux code valid) else none

/-- The character behind a backslash and a `u`; two units join when the first is a high
surrogate. -/
def readEscapedUnit (chars : List Char) : Option (Char × List Char) := do
  let (first, rest) ← readUnit chars
  if 0xD800 ≤ first && first < 0xDC00 then
    match rest with
    | '\\' :: 'u' :: more =>
      let (second, after) ← readUnit more
      if 0xDC00 ≤ second && second < 0xE000 then
        let char ← charOf? (0x10000 + (first - 0xD800) * 0x400 + (second - 0xDC00))
        return (char, after)
      else none
    | _ => none
  else return (← charOf? first, rest)

/-- The rest of a quoted text; `read` holds the characters so far, last first. -/
def readText : Nat → List Char → List Char → Option (String × List Char)
  | 0, _, _ => none
  | fuel + 1, read, chars =>
    match chars with
    | [] => none
    | '"' :: rest => some (String.ofList read.reverse, rest)
    | '\\' :: 'u' :: rest =>
      match readEscapedUnit rest with
      | some (char, after) => readText fuel (char :: read) after
      | none => none
    | '\\' :: escaped :: rest =>
      let plain : Option Char :=
        match escaped with
        | '"' => some '"'
        | '\\' => some '\\'
        | '/' => some '/'
        | 'b' => some (Char.ofNat 8)
        | 'f' => some (Char.ofNat 12)
        | 'n' => some '\n'
        | 'r' => some '\r'
        | 't' => some '\t'
        | _ => none
      match plain with
      | some char => readText fuel (char :: read) rest
      | none => none
    | char :: rest => if char.toNat < 32 then none else readText fuel (char :: read) rest

def digitsValue (digits : List Char) : Nat :=
  digits.foldl (fun number digit => number * 10 + (digit.toNat - 48)) 0

def isDigit (char : Char) : Bool := '0' ≤ char && char ≤ '9'

/-- A number's fraction: its digits and the text after them. -/
def readFraction (chars : List Char) : Option (Option (List Char) × List Char) :=
  match chars with
  | '.' :: rest =>
    let digits := rest.takeWhile isDigit
    if digits.isEmpty then none else some (some digits, rest.dropWhile isDigit)
  | _ => some (none, chars)

/-- Whether an exponent is negative, and the text after its sign. -/
def readSign : List Char → Bool × List Char
  | '-' :: rest => (true, rest)
  | '+' :: rest => (false, rest)
  | chars => (false, chars)

def readExponent (chars : List Char) : Option (Option Int × List Char) :=
  match chars with
  | mark :: rest =>
    if mark = 'e' || mark = 'E' then
      let (negative, rest) := readSign rest
      let digits := rest.takeWhile isDigit
      if digits.isEmpty then none
      else
        let size : Int := digitsValue digits
        some (some (if negative then -size else size), rest.dropWhile isDigit)
    else some (none, chars)
  | [] => some (none, chars)

/-- The value of a number's parts; a fraction or an exponent makes it fractional. -/
def numberOf (negative : Bool) (whole : List Char) (fraction : Option (List Char))
    (exponent : Option Int) : Option Json :=
  let signed (number : Float) : Option Json :=
    if number.isInf then none else some (.float (if negative then -number else number))
  match fraction, exponent with
  | none, none =>
    let number : Int := digitsValue whole
    if negative then
      if number = 0 then some (.float (-0.0))
      else if smallestWhole ≤ -number then some (.int (-number))
      else signed (Decimal.read number.toNat 0)
    else if number ≤ largestWhole then some (.int number)
    else signed (Decimal.read number.toNat 0)
  | _, _ =>
    let places := fraction.getD []
    signed (Decimal.read (digitsValue (whole ++ places)) (exponent.getD 0 - places.length))

def readNumber (negative : Bool) (chars : List Char) : Option (Json × List Char) := do
  let whole := chars.takeWhile isDigit
  let leadingZero := whole.head? == some '0' && whole.length ≠ 1
  if whole.isEmpty || leadingZero then none
  else
    let (fraction, rest) ← readFraction (chars.dropWhile isDigit)
    let (exponent, rest) ← readExponent rest
    return (← numberOf negative whole fraction exponent, rest)

/-- What stands after a word that spells a constant. -/
def afterWord (word : String) (chars : List Char) : Option (List Char) :=
  if word.toList.isPrefixOf chars then some (chars.drop word.length) else none

mutual

/-- Reads one value; the fuel bounds the number of steps and the text's length is enough. -/
def readValue : Nat → List Char → Option (Json × List Char)
  | 0, _ => none
  | fuel + 1, chars =>
    match skipLayout chars with
    | [] => none
    | '"' :: rest => (readText fuel [] rest).map fun (text, after) => (.str text, after)
    | '[' :: rest =>
      match skipLayout rest with
      | ']' :: after => some (.arr [], after)
      | _ => readItems fuel [] rest
    | '\x7b' :: rest =>
      match skipLayout rest with
      | '\x7d' :: after => some (.obj [], after)
      | _ => readFields fuel Dict.empty rest
    | '-' :: rest => readNumber true rest
    | 't' :: rest => (afterWord "rue" rest).map fun after => (.bool true, after)
    | 'f' :: rest => (afterWord "alse" rest).map fun after => (.bool false, after)
    | 'n' :: rest => (afterWord "ull" rest).map fun after => (.null, after)
    | char :: rest => readNumber false (char :: rest)

/-- The items of a list up to its closing bracket, last first in `read`. -/
def readItems : Nat → List Json → List Char → Option (Json × List Char)
  | 0, _, _ => none
  | fuel + 1, read, chars =>
    match readValue fuel chars with
    | none => none
    | some (item, rest) =>
      match skipLayout rest with
      | ',' :: more => readItems fuel (item :: read) more
      | ']' :: after => some (.arr (item :: read).reverse, after)
      | _ => none

def readFields : Nat → Dict Json → List Char → Option (Json × List Char)
  | 0, _, _ => none
  | fuel + 1, read, chars =>
    match skipLayout chars with
    | '"' :: rest =>
      match readText fuel [] rest with
      | none => none
      | some (key, rest) =>
        match skipLayout rest with
        | ':' :: rest =>
          match readValue fuel rest with
          | none => none
          | some (value, rest) =>
            match skipLayout rest with
            | ',' :: more => readFields fuel (read.insert key value) more
            | '\x7d' :: after => some (ofDict (read.insert key value), after)
            | _ => none
        | _ => none
    | _ => none

end

def ofText? (text : String) : Option Json :=
  let chars := text.toList
  match readValue (2 * chars.length + 2) chars with
  | some (value, rest) => if (skipLayout rest).isEmpty then some value else none
  | none => none

end Switchyard.Json
