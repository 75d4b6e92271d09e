import Switchyard.Decimal.Shortest
set_option autoImplicit false

/-! How numbers are written: the two layouts of a shortest decimal, and a fixed number of places. -/
namespace Switchyard.Decimal

/-- The choices that turn shortest digits into text. -/
structure Layout where
  /-- Exponents of the leading digit that are written with a plain decimal point. -/
  plainFrom : Option Int
  plainTo : Option Int
  /-- A whole number still gets `.0`. -/
  keepsPoint : Bool
  /-- An exponent that is not negative gets a plus sign. -/
  signsExponent : Bool
  tie : Tie

/-- Numbers inside data: plain from `1e-5` up to below `1e16`, otherwise an exponent with its
sign; always recognisable as a fractional number. -/
def Layout.data : Layout := ⟨some (-5), some 15, true, true, .toEven⟩

/-- Numbers inside a sentence: never an exponent, no point on whole numbers. -/
def Layout.prose : Layout := ⟨none, none, false, false, .up⟩

/-- Numbers in a listing: plain from `1e-4` up to below `1e16`, otherwise an exponent that has a
sign only when it is negative. -/
def Layout.listing : Layout := ⟨some (-4), some 15, true, false, .up⟩

def zeros (count : Nat) : String := String.ofList (List.replicate count '0')

/-- `digits * 10 ^ power` with a decimal point and without an exponent. -/
def plain (scaled : Scaled) (keepsPoint : Bool) : String :=
  let digits := Nat.toDigits 10 scaled.digits
  if 0 ≤ scaled.power then
    String.ofList digits ++ zeros scaled.power.toNat ++ (if keepsPoint then ".0" else "")
  else
    let places := (-scaled.power).toNat
    if places < digits.length then
      String.ofList (digits.take (digits.length - places)) ++ "." ++
        String.ofList (digits.drop (digits.length - places))
    else "0." ++ zeros (places - digits.length) ++ String.ofList digits

/-- One digit before the point, then an exponent. -/
def scientific (scaled : Scaled) (signsExponent : Bool) : String :=
  let digits := Nat.toDigits 10 scaled.digits
  let exponent := scaled.power + (digits.length : Int) - 1
  let mantissa := match digits with
    | [] => ""
    | [digit] => String.ofList [digit]
    | digit :: rest => String.ofList (digit :: '.' :: rest)
  let sign := if exponent < 0 then "-" else if signsExponent then "+" else ""
  mantissa ++ "e" ++ sign ++ toString exponent.natAbs

def Layout.magnitude (layout : Layout) (scaled : Scaled) : String :=
  let exponent := scaled.power + ((Nat.toDigits 10 scaled.digits).length : Int) - 1
  let above := layout.plainFrom.all fun bound => bound ≤ exponent
  let below := layout.plainTo.all fun bound => exponent ≤ bound
  if above && below then plain scaled layout.keepsPoint else scientific scaled layout.signsExponent

/-- The sign bit, which zero carries too. -/
def isNegative (number : Float) : Bool := 9223372036854775808 ≤ number.toBits.toNat

def Layout.write (layout : Layout) (number : Float) : String :=
  if number.isNaN then "NaN"
  else
    let sign := if isNegative number then "-" else ""
    if number.isInf then sign ++ "inf"
    else
      let binary := Binary.ofBits number.toBits
      sign ++ layout.magnitude
        (if binary.mantissa = 0 then ⟨0, 0⟩ else binary.shortest layout.tie)

/-- Exactly so many places after the point, from the exact value, an exact half to even. -/
def fixed (places : Nat) (number : Float) : String :=
  if number.isNaN then "NaN"
  else
    let sign := if isNegative number then "-" else ""
    if number.isInf then sign ++ "inf"
    else
      let binary := Binary.ofBits number.toBits
      let unit := Nat.pow 10 places
      let numerator := binary.mantissa * Nat.pow 2 binary.exponent.toNat * unit
      let rounded := roundDiv numerator (Nat.pow 2 (-binary.exponent).toNat)
      let fraction := Nat.toDigits 10 (rounded % unit)
      let point := if places = 0 then ""
        else "." ++ zeros (places - fraction.length) ++ String.ofList fraction
      sign ++ toString (rounded / unit) ++ point

/-- The double nearest to `digits * 10 ^ power`. Powers far outside the range of doubles are cut
off first, since their exact value would be needlessly large. Every decimal is rounded correctly; a
faster reader may be off in the last bit for decimals of many digits, and no statement depends on
which of the two neighbours is taken. -/
def read (digits : Nat) (power : Int) : Float :=
  let size := ((Nat.toDigits 10 digits).length : Int)
  if digits = 0 then 0.0
  else if 310 < size + power then 1.0 / 0.0
  else if size + power < -330 then 0.0
  else Float.ofScientific digits (power < 0) power.natAbs

end Switchyard.Decimal
