import Mathlib.Algebra.Order.Ring.Nat
import Switchyard.Context
set_option autoImplicit false

/-! How long the text of a number can be. The bounds are far from sharp; they are meant to show that
no number is ever too large for a context. Main statement: `Context.stored_float`. -/
namespace Switchyard

namespace Decimal

theorem utf8ByteSize_ofList_cons (char : Char) (rest : List Char) :
    (String.ofList (char :: rest)).utf8ByteSize =
      char.utf8Size + (String.ofList rest).utf8ByteSize := by
  rw [String.ofList_cons, String.utf8ByteSize_append, String.utf8ByteSize_singleton]

theorem utf8ByteSize_ofList_le (chars : List Char) :
    (String.ofList chars).utf8ByteSize ≤ 4 * chars.length := by
  induction chars with
  | nil => exact Nat.zero_le _
  | cons char rest ih =>
    have one := char.utf8Size_le_four
    rw [utf8ByteSize_ofList_cons, List.length_cons]
    omega

theorem utf8ByteSize_ofList_of_digits {chars : List Char}
    (digits : ∀ char ∈ chars, char.isDigit = true) :
    (String.ofList chars).utf8ByteSize = chars.length := by
  induction chars with
  | nil => rfl
  | cons char rest ih =>
    obtain ⟨digit, others⟩ := List.forall_mem_cons.mp digits
    have one : char.utf8Size = 1 := by
      apply Char.utf8Size_eq_one_iff.mpr
      simp only [Char.isDigit, Bool.and_eq_true, decide_eq_true_eq] at digit
      exact UInt32.le_trans digit.2 (by decide)
    rw [utf8ByteSize_ofList_cons, ih others, one, List.length_cons, Nat.add_comm]

theorem utf8ByteSize_repr (number : Nat) :
    number.repr.utf8ByteSize = (Nat.toDigits 10 number).length := by
  rw [Nat.repr_eq_ofList_toDigits]
  apply utf8ByteSize_ofList_of_digits
  intro char inside
  exact Nat.isDigit_of_mem_toDigits (by decide) (by decide) inside

theorem utf8ByteSize_zeros_le (count : Nat) : (zeros count).utf8ByteSize ≤ 4 * count := by
  have size := utf8ByteSize_ofList_le (List.replicate count '0')
  rw [List.length_replicate] at size
  exact size

theorem length_toDigits_le {number digits : Nat} (positive : 0 < digits)
    (small : number < 2 ^ digits) : (Nat.toDigits 10 number).length ≤ digits :=
  (Nat.length_toDigits_le_iff (by decide) positive).mpr
    (Nat.lt_of_lt_of_le small (Nat.pow_le_pow_left (by decide) digits))

/-! The digits that are found. -/

/-- A number of at most 53 binary digits, scaled by a power of two within reach. -/
structure Binary.Bounded (binary : Binary) (reach : Nat) : Prop where
  mantissa : binary.mantissa < 2 ^ 53
  low : -reach ≤ binary.exponent
  high : binary.exponent ≤ reach

theorem Binary.ofBits_bounded (bits : UInt64) : (Binary.ofBits bits).Bounded 1074 := by
  unfold Binary.ofBits fractionSize
  dsimp only
  split
  · constructor <;> dsimp only <;> omega
  · constructor <;> dsimp only <;> omega

/-- The numerator and the denominator of a value, by their binary digits. -/
structure Interval.Bounded (interval : Interval) (above below : Nat) : Prop where
  value : interval.value < 2 ^ above
  denominator : interval.denominator < 2 ^ below

theorem Binary.Bounded.interval {binary : Binary} {reach : Nat} (bounded : binary.Bounded reach) :
    binary.interval.Bounded (55 + reach) (reach + 3) := by
  have mantissa := bounded.mantissa
  have low := bounded.low
  have high := bounded.high
  constructor
  · have scale : 2 ^ (binary.exponent - 2).toNat ≤ 2 ^ reach :=
      Nat.pow_le_pow_right (by decide) (by omega)
    calc binary.interval.value = 4 * binary.mantissa * 2 ^ (binary.exponent - 2).toNat := rfl
      _ ≤ 4 * binary.mantissa * 2 ^ reach := Nat.mul_le_mul_left _ scale
      _ < 2 ^ 55 * 2 ^ reach := Nat.mul_lt_mul_of_pos_right (by omega) (Nat.pow_pos (by decide))
      _ = 2 ^ (55 + reach) := (Nat.pow_add 2 55 reach).symm
  · exact Nat.pow_lt_pow_right (by decide) (by omega)

theorem Interval.Bounded.magnitude {interval : Interval} {above below : Nat}
    (bounded : interval.Bounded above below) (someAbove : 0 < above) (someBelow : 0 < below) :
    1 - (below : Int) ≤ interval.magnitude ∧ interval.magnitude ≤ max 1 above := by
  have value := length_toDigits_le someAbove
    (Nat.lt_of_le_of_lt (Nat.div_le_self interval.value interval.denominator) bounded.value)
  have denominator := length_toDigits_le someBelow
    (Nat.lt_of_le_of_lt (Nat.div_le_self interval.denominator interval.value) bounded.denominator)
  unfold Interval.magnitude
  dsimp only
  split <;> omega

theorem Interval.nearest?_le {interval : Interval} {tie : Tie} {found : Nat}
    (nearest : interval.nearest? tie = some found) : found ≤ interval.value + 1 := by
  have below := Nat.div_le_self interval.value interval.denominator
  have chosen : found = interval.value / interval.denominator ∨
      found = interval.value / interval.denominator + 1 := by
    unfold nearest? at nearest
    dsimp only at nearest
    repeat' split at nearest
    all_goals simp only [Option.some.injEq, reduceCtorEq] at nearest
    all_goals omega
  omega

theorem Interval.Bounded.onGrid {interval : Interval} {above below reach : Nat}
    (bounded : interval.Bounded above below) {power : Int} (low : -reach ≤ power) :
    (interval.onGrid power).value < 10 ^ (above + reach) := by
  have finer : 10 ^ (-power).toNat ≤ 10 ^ reach := Nat.pow_le_pow_right (by decide) (by omega)
  have decimal : 2 ^ above ≤ 10 ^ above := Nat.pow_le_pow_left (by decide) above
  calc (interval.onGrid power).value = interval.value * 10 ^ (-power).toNat := rfl
    _ ≤ interval.value * 10 ^ reach := Nat.mul_le_mul_left _ finer
    _ < 10 ^ above * 10 ^ reach :=
      Nat.mul_lt_mul_of_pos_right (Nat.lt_of_lt_of_le bounded.value decimal)
        (Nat.pow_pos (by decide))
    _ = 10 ^ (above + reach) := (Nat.pow_add 10 above reach).symm

/-- The digits and the power are both bounded. -/
structure Scaled.Short (scaled : Scaled) (size reach : Nat) : Prop where
  digits : scaled.digits < 10 ^ size
  low : -reach ≤ scaled.power
  high : scaled.power ≤ reach

theorem Scaled.short_zero (size reach : Nat) : Scaled.Short ⟨0, 0⟩ size reach :=
  ⟨Nat.pow_pos (by decide), by dsimp only; omega, by dsimp only; omega⟩

theorem Scaled.Short.mono {scaled : Scaled} {size reach further : Nat}
    (short : scaled.Short size reach) (more : reach ≤ further) : scaled.Short size further := by
  have low := short.low
  have high := short.high
  exact ⟨short.digits, by omega, by omega⟩

theorem Scaled.Short.trim {scaled : Scaled} {size reach : Nat} (short : scaled.Short size reach) :
    scaled.trim.Short size (reach + size) := by
  induction scaled using Scaled.trim.induct generalizing size reach with
  | case1 scaled zero =>
    rw [Scaled.trim, dif_pos zero]
    exact short.mono (Nat.le_add_right _ _)
  | case2 scaled nonzero divides ih =>
    have digits := short.digits
    have low := short.low
    have high := short.high
    cases size with
    | zero => omega
    | succ size =>
      have shorter : Scaled.Short ⟨scaled.digits / 10, scaled.power + 1⟩ size (reach + 1) := by
        rw [Nat.pow_succ] at digits
        constructor <;> dsimp only <;> omega
      have trimmed := ih shorter
      rw [Scaled.trim, dif_neg nonzero, if_pos divides]
      have fewer : 10 ^ size ≤ 10 ^ (size + 1) := Nat.pow_le_pow_right (by decide) (by omega)
      have trimmedLow := trimmed.low
      have trimmedHigh := trimmed.high
      exact ⟨Nat.lt_of_lt_of_le trimmed.digits fewer, by omega, by omega⟩
  | case3 scaled nonzero rest =>
    rw [Scaled.trim, dif_neg nonzero, if_neg rest]
    exact short.mono (Nat.le_add_right _ _)

theorem Binary.Bounded.shortest {binary : Binary} {reach : Nat} (bounded : binary.Bounded reach)
    (tie : Tie) : (binary.shortest tie).Short (2 * reach + 127) (3 * reach + 198) := by
  obtain ⟨least, most⟩ := bounded.interval.magnitude (by omega) (by omega)
  unfold Binary.shortest
  dsimp only
  split
  · rename_i scaled found
    obtain ⟨power, inside, same⟩ := List.exists_of_findSome?_eq_some found
    obtain ⟨digits, nearest, rfl⟩ := Option.map_eq_some_iff.mp same
    obtain ⟨count, small, rfl⟩ := List.mem_map.mp inside
    rw [List.mem_range] at small
    have low : -((reach + 71 : Nat) : Int) ≤ binary.interval.magnitude - 1 - count := by omega
    have value := bounded.interval.onGrid low
    have few := Interval.nearest?_le nearest
    have short : Scaled.Short ⟨digits, binary.interval.magnitude - 1 - count⟩ (2 * reach + 127)
        (reach + 71) := by
      refine ⟨?_, low, by dsimp only; omega⟩
      have more : 10 ^ (55 + reach + (reach + 71)) < 10 ^ (2 * reach + 127) :=
        Nat.pow_lt_pow_right (by decide) (by omega)
      exact Nat.lt_of_le_of_lt (Nat.le_trans few value) more
    exact short.trim.mono (by omega)
  · exact Scaled.short_zero _ _

/-! The text. -/

section Text

variable {scaled : Scaled} {size reach : Nat}

theorem Scaled.Short.length_digits (short : scaled.Short size reach) (some : 0 < size) :
    (Nat.toDigits 10 scaled.digits).length ≤ size :=
  (Nat.length_toDigits_le_iff (by decide) some).mpr short.digits

theorem utf8ByteSize_plain_le (short : scaled.Short size reach) (some : 0 < size)
    (keepsPoint : Bool) :
    (plain scaled keepsPoint).utf8ByteSize ≤ 8 * size + 4 * reach + 14 := by
  have few := short.length_digits some
  have low := short.low
  have high := short.high
  unfold plain
  dsimp only
  generalize Nat.toDigits 10 scaled.digits = digits at *
  split
  · have first := utf8ByteSize_ofList_le digits
    have later := utf8ByteSize_zeros_le scaled.power.toNat
    have point : (if keepsPoint = true then ".0" else "").utf8ByteSize ≤ 2 := by
      cases keepsPoint <;> decide
    simp only [String.utf8ByteSize_append]
    omega
  · split
    · have first := utf8ByteSize_ofList_le (digits.take (digits.length - (-scaled.power).toNat))
      have later := utf8ByteSize_ofList_le (digits.drop (digits.length - (-scaled.power).toNat))
      have point : ".".utf8ByteSize = 1 := by decide
      rw [List.length_take] at first
      rw [List.length_drop] at later
      simp only [String.utf8ByteSize_append]
      omega
    · have first := utf8ByteSize_zeros_le ((-scaled.power).toNat - digits.length)
      have later := utf8ByteSize_ofList_le digits
      have point : "0.".utf8ByteSize = 2 := by decide
      simp only [String.utf8ByteSize_append]
      omega

theorem utf8ByteSize_toString_le (number : Nat) :
    (toString number).utf8ByteSize ≤ 4 * (number + 1) := by
  have digits : (Nat.toDigits 10 number).length ≤ number + 1 :=
    length_toDigits_le (Nat.succ_pos _)
      (Nat.lt_trans Nat.lt_two_pow_self (Nat.pow_lt_pow_right (by decide) (Nat.lt_succ_self _)))
  have size : (toString number).utf8ByteSize = (Nat.toDigits 10 number).length :=
    utf8ByteSize_repr number
  omega

theorem utf8ByteSize_scientific_le (short : scaled.Short size reach) (some : 0 < size)
    (signsExponent : Bool) :
    (scientific scaled signsExponent).utf8ByteSize ≤ 8 * size + 4 * reach + 14 := by
  have few := short.length_digits some
  have low := short.low
  have high := short.high
  unfold scientific
  dsimp only
  generalize Nat.toDigits 10 scaled.digits = digits at *
  have written := utf8ByteSize_toString_le (scaled.power + (digits.length : Int) - 1).natAbs
  have sign : (if scaled.power + (digits.length : Int) - 1 < 0 then "-"
      else if signsExponent = true then "+" else "").utf8ByteSize ≤ 1 := by
    split
    · decide
    · cases signsExponent <;> decide
  have mark : "e".utf8ByteSize = 1 := by decide
  simp only [String.utf8ByteSize_append]
  match digits with
  | [] =>
    have leading : "".utf8ByteSize = 0 := rfl
    dsimp only at *
    omega
  | [digit] =>
    have leading := utf8ByteSize_ofList_le [digit]
    simp only [List.length_singleton] at *
    omega
  | digit :: second :: rest =>
    have leading := utf8ByteSize_ofList_le (digit :: '.' :: second :: rest)
    simp only [List.length_cons] at *
    omega

theorem utf8ByteSize_magnitude_le (short : scaled.Short size reach) (some : 0 < size)
    (layout : Layout) :
    (layout.magnitude scaled).utf8ByteSize ≤ 8 * size + 4 * reach + 14 := by
  unfold Layout.magnitude
  dsimp only
  split
  · exact utf8ByteSize_plain_le short some layout.keepsPoint
  · exact utf8ByteSize_scientific_le short some layout.signsExponent

theorem utf8ByteSize_write_le (layout : Layout) (number : Float) :
    (layout.write number).utf8ByteSize ≤ 40000 := by
  have sign : (if isNegative number = true then "-" else "").utf8ByteSize ≤ 1 := by
    cases isNegative number <;> decide
  unfold Layout.write
  split
  · decide
  · dsimp only
    split
    · have infinite : "inf".utf8ByteSize = 3 := by decide
      rw [String.utf8ByteSize_append]
      omega
    · have short : Scaled.Short (if (Binary.ofBits number.toBits).mantissa = 0 then ⟨0, 0⟩
          else (Binary.ofBits number.toBits).shortest layout.tie) 2275 3420 := by
        split
        · exact Scaled.short_zero _ _
        · exact (Binary.ofBits_bounded number.toBits).shortest layout.tie
      have written := utf8ByteSize_magnitude_le short (by decide) layout
      rw [String.utf8ByteSize_append]
      omega

end Text

end Decimal

theorem Context.stored_float (number : Float) : stored (.float number) = .float number := by
  have short : (Json.float number).size ≤ 40000 := Decimal.utf8ByteSize_write_le _ number
  exact if_neg (by unfold sizeLimit; omega)

end Switchyard
