import Mathlib
set_option autoImplicit false

/-! How far the results of floating point arithmetic are from the exact ones. Operations are read as
the rounding of exact mantissas and exponents. Main statements: `Stands.add`, `Stands.mul` and
`Stands.div`, the sum, the product and the quotient of positive numbers that are not too far from
one are the exact ones but for what a few roundings may move them. -/
namespace Switchyard

open Float.Model Float.Model.UnpackedFloat

/-- The number that a mantissa stands for at an exponent. -/
def valueOf (mantissa : Nat) (exponent : Int) : ℚ := mantissa * 2 ^ exponent

/-- The part of a number by which one rounding may move it. -/
def grain : ℚ := 2 ^ (-52 : Int)

theorem grain_pos : 0 < grain := by norm_num [grain]

/-- A value that is exact but for so many roundings. -/
def Near (roundings value exact : ℚ) : Prop := |value - exact| ≤ roundings * grain * exact

theorem valueOf_pos {mantissa : Nat} (positive : 0 < mantissa) (exponent : Int) :
    0 < valueOf mantissa exponent := by
  unfold valueOf
  positivity

theorem valueOf_shiftLeft (mantissa : Nat) (exponent : Int) (count : Nat) :
    valueOf (mantissa <<< count) (exponent - count) = valueOf mantissa exponent := by
  have place : (2 : ℚ) ^ exponent = 2 ^ count * 2 ^ (exponent - count) := by
    rw [← zpow_natCast, ← zpow_add₀ (by norm_num)]
    congr 1
    omega
  rw [valueOf, valueOf, Nat.shiftLeft_eq, place]
  push_cast
  ring

/-- A mantissa of so many digits loses less than its grain with what is shifted out of it. -/
theorem valueOf_shifted {mantissa : Nat} (exponent : Int) (count : Nat)
    (low : 2 ^ 52 ≤ mantissa / 2 ^ count) {rounded : Nat} (least : mantissa / 2 ^ count ≤ rounded)
    (most : rounded ≤ mantissa / 2 ^ count + 1) :
    Near 1 (valueOf rounded (exponent + count)) (valueOf mantissa exponent) := by
  have place : (2 : ℚ) ^ (exponent + count) = 2 ^ count * 2 ^ exponent := by
    rw [zpow_add₀ (by norm_num), zpow_natCast, mul_comm]
  have unit : (0 : ℚ) < 2 ^ exponent := by positivity
  have below : mantissa / 2 ^ count * 2 ^ count ≤ mantissa := Nat.div_mul_le_self _ _
  have above : mantissa ≤ (mantissa / 2 ^ count + 1) * 2 ^ count :=
    (Nat.lt_mul_of_div_lt (Nat.lt_succ_self _) (by positivity)).le
  -- The mantissa and what is left of it both lie between two neighbours, which are a grain apart.
  have wide : 2 ^ 52 * 2 ^ count ≤ mantissa := (Nat.mul_le_mul_right _ low).trans below
  have leastToo := Nat.mul_le_mul_right (2 ^ count) least
  have mostToo := Nat.mul_le_mul_right (2 ^ count) most
  have distance : |(rounded * 2 ^ count : ℚ) - mantissa| ≤ grain * mantissa := by
    have step : (2 ^ count : ℚ) ≤ grain * mantissa := by
      have : (2 ^ 52 * 2 ^ count : ℚ) ≤ mantissa := by exact_mod_cast wide
      rw [grain]
      norm_num
      linarith
    rw [Nat.add_mul, Nat.one_mul] at mostToo above
    have h1 : (rounded * 2 ^ count : ℚ) ≤ mantissa + 2 ^ count := by
      exact_mod_cast mostToo.trans (Nat.add_le_add_right below _)
    have h2 : (mantissa : ℚ) ≤ rounded * 2 ^ count + 2 ^ count := by
      exact_mod_cast above.trans (Nat.add_le_add_right leastToo _)
    rw [abs_le]
    constructor <;> linarith
  rw [Near, valueOf, valueOf, place, one_mul, ← mul_assoc, ← mul_assoc, ← sub_mul, abs_mul,
    abs_of_pos unit]
  exact mul_le_mul_of_nonneg_right distance unit.le

/-! Rounding. -/

theorem shiftRight_mantissa (extended : ExtendedMantissa) (count : Nat) :
    (extended >>> count).mantissa = extended.mantissa / 2 ^ count := by
  induction count with
  | zero => exact (Nat.div_one _).symm
  | succ count ih =>
    change (extended >>> count).mantissa / 2 = _
    rw [ih, Nat.div_div_eq_div_mul, Nat.pow_succ]

theorem roundedMantissa_near (extended : ExtendedMantissa) :
    extended.mantissa ≤ extended.roundedMantissa ∧
      extended.roundedMantissa ≤ extended.mantissa + 1 := by
  obtain ⟨mantissa, roundBit, stickyBit⟩ := extended
  cases roundBit <;> cases stickyBit <;>
    simp only [ExtendedMantissa.roundedMantissa, ExtendedMantissa.accuracy,
      Accuracy.roundToNearestEven] <;> omega

structure Normal (mantissa : Nat) : Prop where
  low : 2 ^ 52 ≤ mantissa
  high : mantissa < 2 ^ 53

theorem Normal.pos {mantissa : Nat} (normal : Normal mantissa) : 0 < mantissa :=
  Nat.lt_of_lt_of_le (by decide) normal.low

theorem Normal.log2 {mantissa : Nat} (normal : Normal mantissa) : mantissa.log2 = 52 :=
  (Nat.log2_eq_iff (Nat.ne_of_gt normal.pos)).mpr ⟨normal.low, normal.high⟩

theorem normal_shifted {mantissa : Nat} (wide : 52 ≤ mantissa.log2) :
    Normal (mantissa / 2 ^ (mantissa.log2 - 52)) := by
  have nonzero : mantissa ≠ 0 := by
    rintro rfl
    exact absurd wide (by decide)
  have low := Nat.log2_self_le nonzero
  have high := @Nat.lt_log2_self mantissa
  have positive : 0 < 2 ^ (mantissa.log2 - 52) := Nat.pow_pos (by decide)
  constructor
  · rw [Nat.le_div_iff_mul_le positive, ← Nat.pow_add]
    exact (congrArg (2 ^ ·) (by omega : 52 + (mantissa.log2 - 52) = mantissa.log2)).trans_le low
  · rw [Nat.div_lt_iff_lt_mul positive, ← Nat.pow_add]
    exact high.trans_eq (congrArg (2 ^ ·) (by omega))

theorem targetExponent_of_le {mantissa : Nat} {exponent : Int}
    (above : -1074 ≤ mantissa.log2 + exponent - 52) :
    Format.binary64.targetExponent (totalExponent mantissa exponent) =
      mantissa.log2 + exponent - 52 := by
  simp only [Format.targetExponent, totalExponent, Format.mantissaBits, Format.minExponent]
  norm_num
  omega

/-- A first shift leaves the leading digits of a mantissa. -/
theorem shiftToTargetExponent_wide {mantissa : Nat} {exponent : Int} (accuracy : Accuracy)
    (wide : 52 ≤ mantissa.log2) (above : -1074 ≤ mantissa.log2 + exponent - 52) :
    (shiftToTargetExponent Format.binary64 mantissa exponent accuracy).1.mantissa =
        mantissa / 2 ^ (mantissa.log2 - 52) ∧
      (shiftToTargetExponent Format.binary64 mantissa exponent accuracy).2 =
        mantissa.log2 + exponent - 52 := by
  have amount : (mantissa.log2 + exponent - 52 - exponent).toNat = mantissa.log2 - 52 := by omega
  have starts : (ExtendedMantissa.ofMantissaAndAccuracy mantissa accuracy).mantissa = mantissa := by
    cases accuracy with
    | exact => rfl
    | inexact order => cases order <;> rfl
  simp only [shiftToTargetExponent, shiftToExponent, targetExponent_of_le above, amount,
    shiftRight_mantissa, starts, true_and]
  omega

/-- A second shift takes back the digit into which rounding may have carried, and nothing else. -/
theorem shiftToTargetExponent_carried {mantissa : Nat} {place : Int} (low : 2 ^ 52 ≤ mantissa)
    (high : mantissa ≤ 2 ^ 53) (above : -1074 ≤ place) :
    let shifted := shiftToTargetExponent Format.binary64 mantissa place .exact
    Normal shifted.1.mantissa ∧ place ≤ shifted.2 ∧ shifted.2 ≤ place + 1 ∧
      valueOf shifted.1.mantissa shifted.2 = valueOf mantissa place := by
  intro shifted
  have digits : mantissa.log2 = 52 ∨ mantissa = 2 ^ 53 ∧ mantissa.log2 = 53 := by
    rcases Nat.lt_or_eq_of_le high with fits | carried
    · exact Or.inl (Normal.mk low fits).log2
    · exact Or.inr ⟨carried, by rw [carried]; exact Nat.log2_two_pow⟩
  obtain ⟨kept, reached⟩ :=
    @shiftToTargetExponent_wide mantissa place .exact (by omega) (by omega)
  have normal := @normal_shifted mantissa (by omega)
  change shifted.1.mantissa = _ at kept
  change shifted.2 = _ at reached
  rw [← kept] at normal
  refine ⟨normal, by omega, by omega, ?_⟩
  rw [kept, reached]
  rcases digits with fits | ⟨carried, longer⟩
  · rw [fits, Nat.sub_self, Nat.pow_zero, Nat.div_one]
    congr 1
    omega
  · rw [longer, carried, valueOf, valueOf, show (53 : Nat) + place - 52 = place + 1 by omega,
      zpow_add₀ (by norm_num)]
    norm_num
    ring

/-- Rounding a number that has more than enough digits leaves a normal number of about its size. -/
theorem roundWithAccuracy_wide {mantissa : Nat} {exponent : Int} (sign : Sign)
    (accuracy : Accuracy) (wide : 52 ≤ mantissa.log2)
    (above : -1074 ≤ mantissa.log2 + exponent - 52) :
    ∃ rounded place positive,
      roundWithAccuracy Format.binary64 sign mantissa exponent accuracy =
        .finite sign rounded place positive ∧ Normal rounded ∧
      mantissa.log2 + exponent - 52 ≤ place ∧ place ≤ mantissa.log2 + exponent - 51 ∧
      Near 1 (valueOf rounded place) (valueOf mantissa exponent) := by
  obtain ⟨kept, reached⟩ := shiftToTargetExponent_wide accuracy wide above
  have normal := normal_shifted wide
  rw [← kept] at normal
  unfold roundWithAccuracy
  generalize shiftToTargetExponent Format.binary64 mantissa exponent accuracy = first at *
  obtain ⟨extended, place⟩ := first
  dsimp only at kept reached normal ⊢
  obtain ⟨least, most⟩ := roundedMantissa_near extended
  obtain ⟨normalFinal, after, before, exact⟩ :=
    @shiftToTargetExponent_carried extended.roundedMantissa place
      (Nat.le_trans normal.low least) (Nat.le_trans most normal.high) (by omega)
  have near := valueOf_shifted exponent (mantissa.log2 - 52) (kept ▸ normal.low)
    (kept ▸ least) (kept ▸ most)
  rw [show exponent + (mantissa.log2 - 52 : Nat) = place by omega, ← exact] at near
  rw [dif_neg (Nat.ne_of_gt normalFinal.pos)]
  exact ⟨_, _, _, rfl, normalFinal, by omega, by omega, near⟩

theorem log2_shiftLeft {mantissa : Nat} (positive : mantissa ≠ 0) (count : Nat) :
    (mantissa <<< count).log2 = mantissa.log2 + count := by
  induction count with
  | zero => rfl
  | succ count ih =>
    have before : mantissa <<< count ≠ 0 := by
      simp [positive]
    rw [Nat.shiftLeft_succ, Nat.log2_two_mul before, ih, Nat.add_assoc]

/-- Rounding a number in the middle of the range leaves a normal number of about its size. -/
theorem round_normal {mantissa : Nat} {exponent : Int} (sign : Sign) (nonzero : mantissa ≠ 0)
    (above : -1074 ≤ mantissa.log2 + exponent - 52) :
    ∃ rounded place positive,
      UnpackedFloat.round Format.binary64 sign mantissa exponent =
        .finite sign rounded place positive ∧ Normal rounded ∧
      mantissa.log2 + exponent - 52 ≤ place ∧ place ≤ mantissa.log2 + exponent - 51 ∧
      Near 1 (valueOf rounded place) (valueOf mantissa exponent) := by
  unfold UnpackedFloat.round decreaseExponent
  rw [targetExponent_of_le above]
  dsimp only
  generalize amount : (exponent - (mantissa.log2 + exponent - 52)).toNat = count
  have longer := log2_shiftLeft nonzero count
  obtain ⟨rounded, place, positive, same, normal, low, high, near⟩ :=
    @roundWithAccuracy_wide (mantissa <<< count) (exponent - count) sign .exact (by omega)
      (by omega)
  rw [valueOf_shiftLeft] at near
  exact ⟨rounded, place, positive, same, normal, by omega, by omega, near⟩

/-! Packing. -/

theorem unpack_pack {sign : Sign} {mantissa : Nat} {exponent : Int} (positive : 0 < mantissa)
    (normal : Normal mantissa) (low : -1074 ≤ exponent) (high : exponent ≤ 971) :
    (Float.Model.pack (.finite sign mantissa exponent positive)).unpack =
      .finite sign mantissa exponent positive := by
  have digits := normal.log2
  obtain ⟨biased, isBiased⟩ : ∃ biased : Nat, exponent + 1075 = biased :=
    ⟨(exponent + 1075).toNat, by omega⟩
  have inRange : 1 ≤ biased ∧ biased ≤ 2046 := by omega
  have exact : (BitVec.ofNat 11 biased).toNat = biased := by
    rw [BitVec.toNat_ofNat]
    omega
  have notZero : BitVec.ofNat 11 biased ≠ 0#11 := by
    intro same
    rw [same] at exact
    simp only [BitVec.toNat_zero] at exact
    omega
  have notTop : BitVec.ofNat 11 biased ≠ -1#11 := by
    intro same
    rw [same] at exact
    have top : (-1#11).toNat = 2047 := by decide
    omega
  have whole : (1#1 ++ BitVec.ofNat 52 mantissa).toNat = mantissa := by
    have low := normal.low
    have high := normal.high
    rw [BitVec.toNat_append, BitVec.toNat_ofNat, ← Nat.shiftLeft_add_eq_or_of_lt (by omega),
      Nat.shiftLeft_eq]
    simp only [BitVec.toNat_ofNat]
    omega
  have packed : UnpackedFloat.pack Format.binary64 (.finite sign mantissa exponent positive) =
      packComponents Format.binary64 sign (BitVec.ofNat 11 biased) (BitVec.ofNat 52 mantissa) := by
    have bias : (exponent + Format.binary64.exponentBias + (52 : Nat)).toNat = biased := by
      simp only [Format.exponentBias]
      omega
    simp only [UnpackedFloat.pack, bias, digits]
    rw [if_neg (by omega), if_pos (by decide)]
  change UnpackedFloat.unpack Format.binary64 (UnpackedFloat.pack Format.binary64 _) = _
  rw [packed]
  simp only [UnpackedFloat.unpack, unpackExponent_packComponents, unpackMantissa_packComponents,
    unpackSign_packComponents, Sign.ofBitVec_toBitVec, notZero, notTop, if_false, exact, whole]
  congr 1
  simp only [Format.exponentBias]
  omega

theorem unpack_pack_zero : (Float.Model.pack (.zero .positive)).unpack = .zero .positive := rfl

/-! Arithmetic on positive numbers. -/

/-- The number is this positive one, whose leading digit is at most so many places away from the
point. -/
def Stands (reach : Int) (number : Float) (value : ℚ) : Prop :=
  ∃ mantissa exponent positive,
    number.toModel.unpack = .finite .positive mantissa exponent positive ∧
    Normal mantissa ∧ -reach ≤ exponent + 52 ∧ exponent + 52 ≤ reach ∧
    value = valueOf mantissa exponent

theorem Stands.pos {number : Float} {reach : Int} {value : ℚ}
    (stands : Stands reach number value) : 0 < value := by
  obtain ⟨mantissa, exponent, positive, -, -, -, -, rfl⟩ := stands
  exact valueOf_pos positive exponent

theorem Stands.mono {number : Float} {reach further : Int} {value : ℚ}
    (stands : Stands reach number value) (more : reach ≤ further) : Stands further number value := by
  obtain ⟨mantissa, exponent, positive, same, normal, low, high, valued⟩ := stands
  exact ⟨mantissa, exponent, positive, same, normal, by omega, by omega, valued⟩

theorem Stands.unique {number : Float} {reach further : Int} {value other : ℚ}
    (stands : Stands reach number value) (standsToo : Stands further number other) :
    value = other := by
  obtain ⟨mantissa, exponent, positive, same, -, -, -, rfl⟩ := stands
  obtain ⟨mantissa', exponent', positive', same', -, -, -, rfl⟩ := standsToo
  rw [same] at same'
  cases same'
  rfl

theorem stands_of_packed {number : Float} {mantissa : Nat} {exponent reach : Int}
    {positive : 0 < mantissa}
    (packed : number.toModel = .pack (.finite .positive mantissa exponent positive))
    (normal : Normal mantissa) (low : -reach ≤ exponent + 52) (high : exponent + 52 ≤ reach)
    (near : reach ≤ 1000) : Stands reach number (valueOf mantissa exponent) :=
  ⟨mantissa, exponent, positive,
    by rw [packed, unpack_pack positive normal (by omega) (by omega)], normal, low, high, rfl⟩

theorem log2_bounds {number low high : Nat} (above : 2 ^ low ≤ number)
    (below : number < 2 ^ (high + 1)) : low ≤ number.log2 ∧ number.log2 ≤ high := by
  have nonzero : number ≠ 0 := Nat.ne_of_gt (Nat.lt_of_lt_of_le (Nat.pow_pos (by decide)) above)
  exact ⟨(Nat.le_log2 nonzero).mpr above, Nat.le_of_lt_succ ((Nat.log2_lt nonzero).mpr below)⟩

theorem product_digits {mantissa other : Nat} (normal : Normal mantissa) (normal' : Normal other) :
    104 ≤ (mantissa * other).log2 ∧ (mantissa * other).log2 ≤ 105 := by
  apply log2_bounds
  · rw [show 104 = 52 + 52 from rfl, Nat.pow_add]
    exact Nat.mul_le_mul normal.low normal'.low
  · rw [show 105 + 1 = 53 + 53 from rfl, Nat.pow_add]
    exact Nat.mul_lt_mul'' normal.high normal'.high

theorem Stands.mul {left right : Float} {reach further : Int} {x y : ℚ}
    (first : Stands reach left x) (second : Stands further right y) (near : reach + further ≤ 900) :
    ∃ z, Stands (reach + further + 2) (left * right) z ∧ Near 1 z (x * y) := by
  obtain ⟨m, e, positive, unpackedLeft, normal, low, high, rfl⟩ := first
  obtain ⟨m', e', positive', unpackedRight, normal', low', high', rfl⟩ := second
  obtain ⟨shortest, longest⟩ := product_digits normal normal'
  obtain ⟨rounded, place, isPositive, same, isNormal, least, most, close⟩ :=
    @roundWithAccuracy_wide (m * m') (e + e') .positive .exact (by omega) (by omega)
  have product : (left * right).toModel =
      .pack (UnpackedFloat.mul Format.binary64 left.toModel.unpack right.toModel.unpack) := rfl
  rw [unpackedLeft, unpackedRight] at product
  have exact : valueOf (m * m') (e + e') = valueOf m e * valueOf m' e' := by
    rw [valueOf, valueOf, valueOf, zpow_add₀ (by norm_num)]
    push_cast
    ring
  rw [exact] at close
  exact ⟨_, stands_of_packed (product.trans (congrArg _ same)) isNormal (by omega) (by omega)
    (by omega), close⟩

theorem normalize_natCast {mantissa : Nat} (nonzero : mantissa ≠ 0) (exponent : Int)
    (zeroSign : Sign) :
    UnpackedFloat.normalize Format.binary64 mantissa exponent zeroSign =
      UnpackedFloat.round Format.binary64 .positive mantissa exponent := by
  have positive : compare (mantissa : Int) 0 = .gt := by
    rw [Int.compare_eq_gt]
    omega
  unfold UnpackedFloat.normalize
  rw [positive]
  rfl

theorem sum_digits {mantissa other : Nat} (normal : Normal mantissa) (normal' : Normal other)
    (shift : Nat) :
    52 + shift ≤ (mantissa + other <<< shift).log2 ∧
      (mantissa + other <<< shift).log2 ≤ 53 + shift := by
  have power : 1 ≤ 2 ^ shift := Nat.one_le_two_pow
  have low := Nat.mul_le_mul_right (2 ^ shift) normal'.low
  have high := Nat.mul_lt_mul_of_pos_right normal'.high power
  have small : mantissa < 2 ^ 53 * 2 ^ shift :=
    Nat.lt_of_lt_of_le normal.high (Nat.le_mul_of_pos_right _ power)
  rw [Nat.shiftLeft_eq]
  refine log2_bounds ?_ ?_
  · rw [Nat.pow_add]
    omega
  · rw [show 53 + shift + 1 = 54 + shift by omega, Nat.pow_add]
    omega

theorem add_ordered {mantissa other : Nat} (normal : Normal mantissa) (normal' : Normal other)
    {exponent later : Int} (ordered : exponent ≤ later) (low : -1074 ≤ exponent)
    (shift : Nat) (isShift : later - exponent = shift) :
    ∃ rounded place positive,
      UnpackedFloat.round Format.binary64 .positive (mantissa + other <<< shift) exponent =
        .finite .positive rounded place positive ∧ Normal rounded ∧
      later ≤ place ∧ place ≤ later + 2 ∧
      Near 1 (valueOf rounded place) (valueOf mantissa exponent + valueOf other later) := by
  obtain ⟨least, most⟩ := sum_digits normal normal' shift
  have nonzero : mantissa + other <<< shift ≠ 0 :=
    Nat.ne_of_gt (Nat.add_pos_left normal.pos _)
  obtain ⟨rounded, place, positive, same, isNormal, above, below, close⟩ :=
    @round_normal _ exponent .positive nonzero (by omega)
  have exact : valueOf (mantissa + other <<< shift) exponent =
      valueOf mantissa exponent + valueOf other later := by
    rw [← valueOf_shiftLeft other later shift, show later - shift = exponent by omega]
    simp only [valueOf]
    push_cast
    ring
  rw [exact] at close
  exact ⟨rounded, place, positive, same, isNormal, by omega, by omega, close⟩

theorem Stands.add {left right : Float} {reach : Int} {x y : ℚ} (first : Stands reach left x)
    (second : Stands reach right y) (near : reach ≤ 900) :
    ∃ z, Stands (reach + 2) (left + right) z ∧ Near 1 z (x + y) := by
  obtain ⟨m, e, positive, unpackedLeft, normal, low, high, rfl⟩ := first
  obtain ⟨m', e', positive', unpackedRight, normal', low', high', rfl⟩ := second
  have sum : (left + right).toModel =
      .pack (UnpackedFloat.add Format.binary64 left.toModel.unpack right.toModel.unpack) := rfl
  rw [unpackedLeft, unpackedRight] at sum
  simp only [UnpackedFloat.add, decreaseExponent, Sign.apply, ← Int.natCast_add] at sum
  have nonzero : m <<< (e - min e e').toNat + m' <<< (e' - min e e').toNat ≠ 0 :=
    Nat.ne_of_gt (Nat.add_pos_left (Nat.lt_of_lt_of_le positive Nat.le_shiftLeft) _)
  rw [normalize_natCast nonzero] at sum
  rcases Int.le_total e e' with ordered | ordered
  · rw [Int.min_eq_left ordered, Int.sub_self] at sum
    obtain ⟨rounded, place, isPositive, same, isNormal, least, most, close⟩ :=
      add_ordered normal normal' ordered (by omega) (e' - e).toNat (by omega)
    exact ⟨_, stands_of_packed (sum.trans (congrArg _ same)) isNormal (by omega) (by omega)
      (by omega), close⟩
  · rw [Int.min_eq_right ordered, Int.sub_self, Nat.add_comm] at sum
    obtain ⟨rounded, place, isPositive, same, isNormal, least, most, close⟩ :=
      add_ordered normal' normal ordered (by omega) (e - e').toNat (by omega)
    rw [add_comm] at close
    exact ⟨_, stands_of_packed (sum.trans (congrArg _ same)) isNormal (by omega) (by omega)
      (by omega), close⟩

theorem quotient_bounds {mantissa other : Nat} (normal : Normal mantissa) (normal' : Normal other) :
    2 ^ 52 ≤ mantissa <<< 53 / other ∧ mantissa <<< 53 / other < 2 ^ (53 + 1) := by
  have low := normal.low
  have high := normal.high
  have low' := normal'.low
  have high' := normal'.high
  rw [Nat.shiftLeft_eq]
  constructor
  · rw [Nat.le_div_iff_mul_le normal'.pos]
    omega
  · rw [Nat.div_lt_iff_lt_mul normal'.pos]
    omega

theorem valueOf_quotient {mantissa other : Nat} (positive : 0 < other) (exponent later : Int)
    (low : 2 ^ 52 ≤ mantissa <<< 53 / other) :
    Near 1 (valueOf (mantissa <<< 53 / other) (exponent - later - 53))
      (valueOf mantissa exponent / valueOf other later) := by
  have place : (2 : ℚ) ^ (exponent - later - 53) = 2 ^ exponent / 2 ^ later / 2 ^ 53 := by
    rw [zpow_sub₀ (by norm_num), zpow_sub₀ (by norm_num)]
    norm_num
  have unit : (0 : ℚ) < 2 ^ (exponent - later - 53) := by positivity
  have isPositive : (0 : ℚ) < other := by exact_mod_cast positive
  rw [Nat.shiftLeft_eq] at low ⊢
  generalize quotient : mantissa * 2 ^ 53 / other = kept at low ⊢
  have below : kept * other ≤ mantissa * 2 ^ 53 := by
    rw [← quotient]
    exact Nat.div_mul_le_self _ _
  have above : mantissa * 2 ^ 53 ≤ (kept + 1) * other := by
    rw [← quotient]
    exact (Nat.lt_mul_of_div_lt (Nat.lt_succ_self _) positive).le
  have exact : valueOf mantissa exponent / valueOf other later =
      mantissa * 2 ^ 53 / other * 2 ^ (exponent - later - 53) := by
    rw [valueOf, valueOf, place]
    field_simp
  have atLeast : (kept : ℚ) ≤ mantissa * 2 ^ 53 / other := by
    rw [le_div_iff₀ isPositive]
    exact_mod_cast below
  have atMost : (mantissa * 2 ^ 53 / other : ℚ) ≤ kept + 1 := by
    rw [div_le_iff₀ isPositive]
    exact_mod_cast above
  have large : (2 ^ 52 : ℚ) ≤ kept := by exact_mod_cast low
  have distance : |(kept : ℚ) - mantissa * 2 ^ 53 / other| ≤
      grain * (mantissa * 2 ^ 53 / other) := by
    rw [abs_le, grain]
    norm_num
    constructor <;> linarith
  rw [Near, exact, valueOf, one_mul, ← sub_mul, abs_mul, abs_of_pos unit, ← mul_assoc]
  exact mul_le_mul_of_nonneg_right distance unit.le

/-- What is rounded twice has moved by no more than three roundings of the exact number. -/
theorem Near.trans {first second third : ℚ} (near : Near 1 first second) (closer : Near 1 second third)
    (positive : 0 < third) : Near 3 first third := by
  rw [Near, grain, abs_le] at near closer ⊢
  norm_num at near closer ⊢
  constructor <;> linarith

/-- A quotient is the exact one but for its rounding and what the division leaves over. -/
theorem Stands.div {left right : Float} {reach further : Int} {x y : ℚ}
    (first : Stands reach left x) (second : Stands further right y) (near : reach + further ≤ 900) :
    ∃ z, Stands (reach + further + 1) (left / right) z ∧ Near 3 z (x / y) := by
  have quotientPos : 0 < x / y := div_pos first.pos second.pos
  obtain ⟨m, e, positive, unpackedLeft, normal, low, high, rfl⟩ := first
  obtain ⟨m', e', positive', unpackedRight, normal', low', high', rfl⟩ := second
  have quotient : (left / right).toModel =
      .pack (UnpackedFloat.div Format.binary64 left.toModel.unpack right.toModel.unpack) := rfl
  rw [unpackedLeft, unpackedRight] at quotient
  have size : totalExponent m e - totalExponent m' e' = e - e' := by
    simp only [totalExponent, normal.log2, normal'.log2]
    omega
  have target : min (e - e') (Format.binary64.targetExponent (e - e')) = e - e' - 53 := by
    simp only [Format.targetExponent, Format.mantissaBits, Format.minExponent]
    norm_num
    omega
  have amount : (e - e' - (e - e' - 53)).toNat = 53 := by omega
  simp only [UnpackedFloat.div, divCore, size, target, amount] at quotient
  obtain ⟨long, notLonger⟩ := quotient_bounds normal normal'
  obtain ⟨shortest, longest⟩ := log2_bounds long notLonger
  obtain ⟨rounded, place, isPositive, same, isNormal, least, most, close⟩ :=
    @roundWithAccuracy_wide (m <<< 53 / m') (e - e' - 53) (Sign.positive / Sign.positive)
      (accuracyOfFraction (m <<< 53 % m') m') (by omega) (by omega)
  exact ⟨_, stands_of_packed (quotient.trans (congrArg _ same)) isNormal (by omega) (by omega)
    (by omega), close.trans (valueOf_quotient positive' e e' long) quotientPos⟩

theorem Stands.repacked {number other : Float} {reach : Int} {value : ℚ}
    (stands : Stands reach number value) (packed : other.toModel = .pack number.toModel.unpack)
    (near : reach ≤ 1000) : Stands reach other value := by
  obtain ⟨mantissa, exponent, positive, same, normal, low, high, rfl⟩ := stands
  rw [same] at packed
  exact stands_of_packed packed normal low high near

theorem Stands.add_zero {left right : Float} {reach : Int} {value : ℚ}
    (stands : Stands reach left value) (zero : right.toModel.unpack = .zero .positive)
    (near : reach ≤ 1000) : Stands reach (left + right) value := by
  have sum : (left + right).toModel =
      .pack (UnpackedFloat.add Format.binary64 left.toModel.unpack right.toModel.unpack) := rfl
  have same : UnpackedFloat.add Format.binary64 left.toModel.unpack (.zero .positive) =
      left.toModel.unpack := by
    obtain ⟨mantissa, exponent, positive, unpacked, -⟩ := stands
    rw [unpacked]
    rfl
  rw [zero, same] at sum
  exact stands.repacked sum near

/-! Whole numbers. -/

theorem toFloat_packed {number : Nat} (small : number < 2 ^ 53) :
    number.toUInt64.toFloat.toModel =
      .pack (UnpackedFloat.normalize Format.binary64 (number : Int) 0 .positive) := by
  have packed : number.toUInt64.toFloat.toModel =
      .pack (UnpackedFloat.normalize Format.binary64 (number.toUInt64.toNat : Nat) 0
        .positive) := rfl
  rwa [show number.toUInt64.toNat = number from Nat.mod_eq_of_lt (by omega)] at packed

theorem stands_toFloat {number : Nat} (some : number ≠ 0) (small : number < 2 ^ 53) :
    ∃ value, Stands 53 number.toUInt64.toFloat value ∧ Near 1 value number := by
  have digits := (Nat.log2_lt some).mpr small
  have packed := toFloat_packed small
  obtain ⟨rounded, place, positive, rounds, normal, least, most, close⟩ :=
    @round_normal _ 0 .positive some (by omega)
  rw [normalize_natCast some, rounds] at packed
  rw [show valueOf number 0 = number by simp [valueOf]] at close
  exact ⟨_, stands_of_packed packed normal (by omega) (by omega) (by omega), close⟩

theorem ofNat_eq {number : Nat} (small : number < 2 ^ 53) :
    Float.ofNat number = number.toUInt64.toFloat * Float.ofBits 0x3FF0000000000000 := by
  change Float.ofScientific number false 0 = _
  unfold Float.ofScientific
  rw [dif_pos ⟨small, by decide⟩]
  rfl

theorem stands_one : Stands 0 (Float.ofBits 0x3FF0000000000000) 1 :=
  ⟨4503599627370496, -52, by decide, by rfl, by constructor <;> decide, by decide, by decide, by
    norm_num [valueOf]⟩

theorem stands_ofNat {number : Nat} (some : number ≠ 0) (small : number < 2 ^ 53) :
    ∃ value, Stands 55 (Float.ofNat number) value ∧ Near 3 value number := by
  obtain ⟨whole, stands, close⟩ := stands_toFloat some small
  obtain ⟨value, standsToo, closer⟩ := stands.mul stands_one (by decide)
  rw [mul_one] at closer
  rw [ofNat_eq small]
  exact ⟨value, standsToo, closer.trans close (by positivity)⟩

end Switchyard
