set_option autoImplicit false

/-! The fewest decimal digits that still read back as a given binary value, found in exact
arithmetic on natural numbers. A decimal reads back when it lies in the interval of reals that round
to the value, and of the decimals with the fewest digits the nearest is taken. -/
namespace Switchyard.Decimal

/-- A positive value `mantissa * 2 ^ exponent` together with how close its lower neighbour is. -/
structure Binary where
  mantissa : Nat
  exponent : Int
  /-- The neighbour below is only half a step away, as at a power of two. -/
  lowerIsClose : Bool
  deriving Repr, DecidableEq

/-- The fraction takes the lower 52 bits. -/
def fractionSize : Nat := 4503599627370496

/-- The magnitude held by the bits of a finite double. -/
def Binary.ofBits (bits : UInt64) : Binary :=
  let fraction := bits.toNat % fractionSize
  let biased : Nat := bits.toNat / fractionSize % 2048
  if biased = 0 then ⟨fraction, -1074, false⟩
  else ⟨fraction + fractionSize, (biased : Int) - 1075, fraction = 0 && 1 < biased⟩

/-- `digits * 10 ^ power`. -/
structure Scaled where
  digits : Nat
  power : Int
  deriving Repr, DecidableEq

/-- What to do with a value exactly half way between two candidates. -/
inductive Tie where
  | toEven
  | up
  deriving Repr, DecidableEq

/-- The rounding interval of a value and the value itself, as numerators over one denominator. -/
structure Interval where
  low : Nat
  value : Nat
  high : Nat
  denominator : Nat
  /-- The ends belong to the interval. -/
  closed : Bool

def Binary.interval (binary : Binary) : Interval :=
  let quarter := binary.exponent - 2
  let scale := Nat.pow 2 quarter.toNat
  { low := (4 * binary.mantissa - (if binary.lowerIsClose then 1 else 2)) * scale
    value := 4 * binary.mantissa * scale
    high := (4 * binary.mantissa + 2) * scale
    denominator := Nat.pow 2 (-quarter).toNat
    closed := binary.mantissa % 2 = 0 }

namespace Interval

/-- Multiplies the bounds so that the grid of step `10 ^ power` becomes the whole numbers. -/
def onGrid (interval : Interval) (power : Int) : Interval :=
  let up := Nat.pow 10 (-power).toNat
  { interval with
    low := interval.low * up
    value := interval.value * up
    high := interval.high * up
    denominator := interval.denominator * Nat.pow 10 power.toNat }

/-- The whole number rounds to the value. -/
def covers (interval : Interval) (whole : Nat) : Bool :=
  let scaled := whole * interval.denominator
  if interval.closed then interval.low ≤ scaled && scaled ≤ interval.high
  else interval.low < scaled && scaled < interval.high

/-- The whole number nearest to the value among its two neighbours that the interval covers. -/
def nearest? (interval : Interval) (tie : Tie) : Option Nat :=
  let below := interval.value / interval.denominator
  let rest := interval.value % interval.denominator
  match interval.covers below, interval.covers (below + 1) with
  | false, false => none
  | true, false => some below
  | false, true => some (below + 1)
  | true, true =>
    if 2 * rest < interval.denominator then some below
    else if interval.denominator < 2 * rest then some (below + 1)
    else match tie with
      | .up => some (below + 1)
      | .toEven => some (if below % 2 = 0 then below else below + 1)

/-- The number of digits before the decimal point, negative when zeros follow the point. -/
def magnitude (interval : Interval) : Int :=
  let whole := interval.value / interval.denominator
  if whole = 0 then 1 - ((Nat.toDigits 10 (interval.denominator / interval.value)).length : Int)
  else (Nat.toDigits 10 whole).length

end Interval

/-- Trailing zeros moved from the digits into the power. -/
def Scaled.trim (scaled : Scaled) : Scaled :=
  if zero : scaled.digits = 0 then scaled
  else if scaled.digits % 10 = 0 then Scaled.trim ⟨scaled.digits / 10, scaled.power + 1⟩
  else scaled
termination_by scaled.digits
decreasing_by exact Nat.div_lt_self (Nat.pos_of_ne_zero zero) (by decide)

/-- Seventeen digits always suffice for a double; the grids are tried from the coarsest. -/
def Binary.shortest (binary : Binary) (tie : Tie) : Scaled :=
  let interval := binary.interval
  let magnitude := interval.magnitude
  let powers : List Int := (List.range 17).map fun count : Nat => magnitude - 1 - (count : Int)
  match powers.findSome? fun power =>
    ((interval.onGrid power).nearest? tie).map fun digits => (Scaled.mk digits power).trim
  with
  | some scaled => scaled
  | none => ⟨0, 0⟩

/-- A quotient rounded to the nearest whole number, an exact half to the even neighbour. -/
def roundDiv (numerator denominator : Nat) : Nat :=
  let below := numerator / denominator
  let rest := numerator % denominator
  if 2 * rest < denominator then below
  else if denominator < 2 * rest then below + 1
  else if below % 2 = 0 then below else below + 1

end Switchyard.Decimal
