import Switchyard.Decimal.Text
import Switchyard.Proofs.Number.Moderate
set_option autoImplicit false

/-! Numbers that are neither infinite nor undefined. Main statements: `isFinite_ofInt`, whole
numbers of 64 bits have a finite double nearest to them, and `Decimal.read_isFinite`, so has a
decimal unless it is too large. -/
namespace Switchyard

open Float.Model Float.Model.UnpackedFloat

/-! Packing. -/

theorem unpack_packComponents {sign : Sign} {exponent : BitVec 11} (mantissa : BitVec 52)
    (notTop : exponent ≠ -1#11) :
    (UnpackedFloat.unpack Format.binary64
      (packComponents Format.binary64 sign exponent mantissa)).isFinite = true := by
  unfold UnpackedFloat.unpack
  simp only [unpackExponent_packComponents, unpackMantissa_packComponents,
    unpackSign_packComponents, Sign.ofBitVec_toBitVec]
  rw [if_neg notTop]
  split
  · split <;> rfl
  · rfl

theorem isFinite_pack {sign : Sign} {mantissa : Nat} {exponent : Int} (positive : 0 < mantissa)
    (inRange : exponent ≤ 971) :
    (Float.Model.pack (.finite sign mantissa exponent positive)).unpack.isFinite = true := by
  change (UnpackedFloat.unpack Format.binary64 (UnpackedFloat.pack Format.binary64 _)).isFinite =
    true
  have bias : (exponent + Format.binary64.exponentBias +
      Format.binary64.mantissaBitsWithoutImplicit).toNat = (exponent + 1075).toNat := by
    simp only [Format.exponentBias]
    omega
  simp only [UnpackedFloat.pack, bias]
  rw [if_neg (by omega)]
  split
  · apply unpack_packComponents
    intro same
    have top := congrArg BitVec.toNat same
    rw [BitVec.toNat_ofNat, show (-1#11).toNat = 2047 by decide] at top
    omega
  · exact unpack_packComponents _ (by decide)

/-- A number that is packed may become infinite, but never undefined. -/
theorem isFinite_of_packed {number : Float} {unpacked : UnpackedFloat}
    (packed : number.toModel = .pack unpacked) (defined : unpacked.isNaN = false)
    (bounded : number.isInf = false) : number.isFinite = true := by
  change number.toModel.unpack.isInf = false at bounded
  change number.toModel.unpack.isFinite = true
  rw [packed] at bounded ⊢
  cases unpacked with
  | infinity sign => cases sign <;> cases bounded
  | notANumber => cases defined
  | zero sign => cases sign <;> rfl
  | finite sign mantissa exponent positive =>
    by_cases inRange : exponent ≤ 971
    · exact isFinite_pack positive inRange
    · change (UnpackedFloat.unpack Format.binary64
        (UnpackedFloat.pack Format.binary64 _)).isInf = false at bounded
      unfold UnpackedFloat.pack at bounded
      dsimp only at bounded
      rw [if_pos (by simp only [Format.exponentBias]; omega)] at bounded
      cases sign <;> cases bounded

theorem exponent_le_of_unpack {model : Float.Model} {sign : Sign} {mantissa : Nat} {exponent : Int}
    {positive : 0 < mantissa}
    (same : model.unpack = .finite sign mantissa exponent positive) : exponent ≤ 971 := by
  unfold Float.Model.unpack UnpackedFloat.unpack at same
  dsimp only at same
  have bias : (Format.binary64.exponentBias : Int) = 1023 := by simp [Format.exponentBias]
  split at same
  · split at same <;> cases same
  · rename_i notTop
    have below : (@unpackExponent Format.binary64 model.toBits.toBitVec).toNat ≠ 2047 :=
      fun top => notTop (BitVec.eq_of_toNat_eq top)
    have bounded : (@unpackExponent Format.binary64 model.toBits.toBitVec).toNat < 2 ^ 11 :=
      BitVec.isLt _
    split at same
    · rename_i least
      have none : (@unpackExponent Format.binary64 model.toBits.toBitVec).toNat = 0 := by
        rw [least]
        rfl
      split at same
      · cases same
      · injection same
        omega
    · injection same
      omega

theorem isFinite_neg {number : Float} (regular : number.isFinite = true) :
    (-number).isFinite = true := by
  change number.toModel.unpack.isFinite = true at regular
  change (Float.Model.pack number.toModel.unpack.neg).unpack.isFinite = true
  cases found : number.toModel.unpack with
  | infinity sign =>
    rw [found] at regular
    cases regular
  | notANumber =>
    rw [found] at regular
    cases regular
  | zero sign => cases sign <;> rfl
  | finite sign mantissa exponent positive =>
    exact isFinite_pack positive (exponent_le_of_unpack found)

/-! Whole numbers. -/

theorem isFinite_ofNat {number : Nat} (small : number < 2 ^ 64) :
    (Float.ofNat number).isFinite = true := by
  by_cases exact : number < 2 ^ 53
  · exact (within_ofNat exact).isFinite
  · have same : Float.ofNat number = Float.ofModel (Float.Model.ofScientific number 0) := by
      change Float.ofScientific number false 0 = _
      unfold Float.ofScientific
      rw [dif_neg (fun both => exact both.1)]
      rfl
    have positive : number ≠ 0 := by
      rintro rfl
      exact exact (by decide)
    have digits : (number <<< 53 * 1).log2 = number.log2 + 53 := by
      rw [Nat.mul_one]
      exact log2_shiftLeft positive 53
    have far : (2 : Int) ^ Format.binary64.exponentBits = 2048 := rfl
    have least := (Nat.le_log2 positive).mpr (Nat.not_lt.mp exact)
    have most := (Nat.log2_lt positive).mpr small
    obtain ⟨rounded, place, rounds, equal, -, low, high⟩ :=
      @roundWithAccuracy_wide (number <<< 53 * 1) (-53) .positive .exact (by omega) (by omega)
    have packed : (Float.ofNat number).toModel =
        .pack (.finite .positive rounded place rounds) := by
      rw [same, ← equal]
      change Float.Model.pack _ = _
      unfold UnpackedFloat.ofScientific
      rw [dif_neg positive, if_neg (by decide), if_neg (by omega), if_pos (by decide)]
      rfl
    change (Float.ofNat number).toModel.unpack.isFinite = true
    rw [packed]
    exact isFinite_pack rounds (by omega)

theorem isFinite_ofInt {number : Int} (low : -2 ^ 64 < number) (high : number < 2 ^ 64) :
    (Float.ofInt number).isFinite = true := by
  cases number with
  | ofNat number => exact isFinite_ofNat (Int.ofNat_lt.mp high)
  | negSucc number =>
    have small : number + 1 < 2 ^ 64 := by omega
    exact isFinite_neg (isFinite_ofNat small)

/-! Decimals. -/

theorem roundWithAccuracy_isNaN (sign : Sign) (mantissa : Nat) (exponent : Int)
    (accuracy : Accuracy) :
    (roundWithAccuracy Format.binary64 sign mantissa exponent accuracy).isNaN = false := by
  unfold roundWithAccuracy
  dsimp only
  split <;> rfl

theorem mul_isNaN {left right : UnpackedFloat} (first : left.isFinite = true)
    (second : right.isFinite = true) :
    (UnpackedFloat.mul Format.binary64 left right).isNaN = false := by
  cases left with
  | infinity sign => cases first
  | notANumber => cases first
  | zero sign =>
    cases right with
    | infinity sign => cases second
    | notANumber => cases second
    | zero sign => rfl
    | finite sign mantissa exponent positive => rfl
  | finite sign mantissa exponent positive =>
    cases right with
    | infinity sign => cases second
    | notANumber => cases second
    | zero sign => rfl
    | finite sign mantissa exponent positive => exact roundWithAccuracy_isNaN _ _ _ _

theorem div_isNaN {left : UnpackedFloat} (first : left.isFinite = true) {sign : Sign}
    {mantissa : Nat} {exponent : Int} (positive : 0 < mantissa) :
    (UnpackedFloat.div Format.binary64 left (.finite sign mantissa exponent positive)).isNaN =
      false := by
  cases left with
  | infinity sign => cases first
  | notANumber => cases first
  | zero sign => rfl
  | finite sign mantissa exponent positive => exact roundWithAccuracy_isNaN _ _ _ _

theorem powersOfTen_regular : ∀ power ∈ Float.exactlyRepresentablePowersOfTen.toList,
    ∃ mantissa exponent positive,
      power.toModel.unpack = .finite .positive mantissa exponent positive := by
  intro power listed
  simp only [Float.exactlyRepresentablePowersOfTen, List.mem_cons, List.not_mem_nil,
    or_false] at listed
  rcases listed with rfl | rfl | rfl | rfl | rfl | rfl | rfl | rfl | rfl | rfl | rfl | rfl | rfl |
    rfl | rfl | rfl | rfl | rfl | rfl | rfl | rfl | rfl | rfl <;> exact ⟨_, _, _, rfl⟩

theorem ofScientific_isNaN (digits : Nat) (power : Int) :
    (UnpackedFloat.ofScientific Format.binary64 digits power).isNaN = false := by
  unfold UnpackedFloat.ofScientific
  split
  · rfl
  · split
    · rfl
    · split
      · rfl
      · split
        · exact mul_isNaN rfl rfl
        · exact div_isNaN rfl _

theorem isFinite_ofScientific {digits power : Nat} {fractional : Bool}
    (bounded : (Float.ofScientific digits fractional power).isInf = false) :
    (Float.ofScientific digits fractional power).isFinite = true := by
  unfold Float.ofScientific at bounded ⊢
  split at bounded
  · rename_i small
    rw [dif_pos small]
    have whole := (within_toFloat small.1).isFinite
    dsimp only at bounded ⊢
    generalize isPower : getElem Float.exactlyRepresentablePowersOfTen power _ = divisor
      at bounded ⊢
    have listed : divisor ∈ Float.exactlyRepresentablePowersOfTen.toList := by
      rw [← isPower]
      exact Array.getElem_mem_toList _
    obtain ⟨mantissa, exponent, positive, unpacked⟩ := powersOfTen_regular divisor listed
    split at bounded
    · rename_i isFractional
      rw [if_pos isFractional]
      have packed : (digits.toUInt64.toFloat / divisor).toModel =
          .pack (UnpackedFloat.div Format.binary64 digits.toUInt64.toFloat.toModel.unpack
            divisor.toModel.unpack) := rfl
      rw [unpacked] at packed
      exact isFinite_of_packed packed (div_isNaN whole positive) bounded
    · rename_i notFractional
      rw [if_neg notFractional]
      have packed : (digits.toUInt64.toFloat * divisor).toModel =
          .pack (UnpackedFloat.mul Format.binary64 digits.toUInt64.toFloat.toModel.unpack
            divisor.toModel.unpack) := rfl
      rw [unpacked] at packed
      exact isFinite_of_packed packed (mul_isNaN whole rfl) bounded
  · rename_i large
    rw [dif_neg large]
    exact isFinite_of_packed rfl (ofScientific_isNaN _ _) bounded

/-- A number that is read from decimal digits is finite unless it is too large. -/
theorem Decimal.read_isFinite {digits : Nat} {power : Int}
    (bounded : (Decimal.read digits power).isInf = false) :
    (Decimal.read digits power).isFinite = true := by
  unfold Decimal.read at bounded ⊢
  dsimp only at bounded ⊢
  split at bounded
  · rename_i zero
    rw [if_pos zero]
    rfl
  · rename_i nonzero
    rw [if_neg nonzero]
    split at bounded
    · cases bounded
    · rename_i notTooLarge
      rw [if_neg notTooLarge]
      split at bounded
      · rename_i tiny
        rw [if_pos tiny]
        rfl
      · rename_i notTiny
        rw [if_neg notTiny]
        exact isFinite_ofScientific bounded

end Switchyard
