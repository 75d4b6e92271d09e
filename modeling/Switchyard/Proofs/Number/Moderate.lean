import Switchyard.Proofs.Number.Rounding
set_option autoImplicit false

/-! How large the results of floating point arithmetic can be. Main statements: the sum, the product
and the quotient of positive numbers near one are near one again, each by a bound of its own, and so
they are finite; zeros may stand in some of the places. -/
namespace Switchyard

open Float.Model Float.Model.UnpackedFloat

/-- A positive number whose leading digit is at most so many places away from the point. -/
def Moderate (reach : Int) (number : Float) : Prop :=
  ∃ mantissa exponent positive,
    number.toModel.unpack = .finite .positive mantissa exponent positive ∧
    Normal mantissa ∧ -reach ≤ exponent + 52 ∧ exponent + 52 ≤ reach

theorem Stands.moderate {number : Float} {reach : Int} {value : ℚ}
    (stands : Stands reach number value) : Moderate reach number := by
  obtain ⟨mantissa, exponent, positive, same, normal, low, high, -⟩ := stands
  exact ⟨mantissa, exponent, positive, same, normal, low, high⟩

theorem Moderate.stands {number : Float} {reach : Int} (moderate : Moderate reach number) :
    ∃ value, Stands reach number value := by
  obtain ⟨mantissa, exponent, positive, same, normal, low, high⟩ := moderate
  exact ⟨_, mantissa, exponent, positive, same, normal, low, high, rfl⟩

theorem Moderate.mono {number : Float} {reach further : Int} (moderate : Moderate reach number)
    (more : reach ≤ further) : Moderate further number := by
  obtain ⟨mantissa, exponent, positive, same, normal, low, high⟩ := moderate
  exact ⟨mantissa, exponent, positive, same, normal, by omega, by omega⟩

theorem Moderate.isFinite {number : Float} {reach : Int} (moderate : Moderate reach number) :
    number.isFinite = true := by
  obtain ⟨mantissa, exponent, positive, same, -⟩ := moderate
  change number.toModel.unpack.isFinite = true
  rw [same]
  rfl

/-! Arithmetic on positive numbers. -/

theorem Moderate.mul {left right : Float} {reach further : Int} (first : Moderate reach left)
    (second : Moderate further right) (near : reach + further ≤ 900) :
    Moderate (reach + further + 2) (left * right) := by
  obtain ⟨_, standsLeft⟩ := first.stands
  obtain ⟨_, standsRight⟩ := second.stands
  obtain ⟨_, stands, -⟩ := standsLeft.mul standsRight near
  exact stands.moderate

theorem Moderate.add {left right : Float} {reach : Int} (first : Moderate reach left)
    (second : Moderate reach right) (near : reach ≤ 900) :
    Moderate (reach + 2) (left + right) := by
  obtain ⟨_, standsLeft⟩ := first.stands
  obtain ⟨_, standsRight⟩ := second.stands
  obtain ⟨_, stands, -⟩ := standsLeft.add standsRight near
  exact stands.moderate

theorem Moderate.div {left right : Float} {reach further : Int} (first : Moderate reach left)
    (second : Moderate further right) (near : reach + further ≤ 900) :
    Moderate (reach + further + 1) (left / right) := by
  obtain ⟨_, standsLeft⟩ := first.stands
  obtain ⟨_, standsRight⟩ := second.stands
  obtain ⟨_, stands, -⟩ := standsLeft.div standsRight near
  exact stands.moderate

/-! Numbers that may be zero. -/

def Within (reach : Int) (number : Float) : Prop :=
  number.toModel.unpack = .zero .positive ∨ Moderate reach number

theorem Within.mono {number : Float} {reach further : Int} (within : Within reach number)
    (more : reach ≤ further) : Within further number :=
  Or.imp_right (fun moderate => moderate.mono more) within

theorem Within.isFinite {number : Float} {reach : Int} (within : Within reach number) :
    number.isFinite = true := by
  rcases within with zero | moderate
  · change number.toModel.unpack.isFinite = true
    rw [zero]
    rfl
  · exact moderate.isFinite

theorem Within.add_moderate {left right : Float} {reach : Int} (first : Within reach left)
    (second : Moderate reach right) (near : reach ≤ 900) : Moderate (reach + 2) (left + right) := by
  rcases first with zero | moderate
  · have sum : (left + right).toModel =
        .pack (UnpackedFloat.add Format.binary64 left.toModel.unpack right.toModel.unpack) := rfl
    have same : UnpackedFloat.add Format.binary64 (.zero .positive) right.toModel.unpack =
        right.toModel.unpack := by
      obtain ⟨mantissa, exponent, positive, unpacked, -⟩ := second
      rw [unpacked]
      rfl
    rw [zero, same] at sum
    obtain ⟨_, stands⟩ := second.stands
    exact (stands.repacked sum (by omega)).moderate.mono (by omega)
  · exact moderate.add second near

theorem Within.add_zero {left right : Float} {reach : Int} (first : Within reach left)
    (zero : right.toModel.unpack = .zero .positive) (near : reach ≤ 1000) :
    Within reach (left + right) := by
  rcases first with zero' | moderate
  · have sum : (left + right).toModel =
        .pack (UnpackedFloat.add Format.binary64 left.toModel.unpack right.toModel.unpack) := rfl
    rw [zero, zero'] at sum
    refine Or.inl ?_
    rw [sum]
    exact unpack_pack_zero
  · obtain ⟨_, stands⟩ := moderate.stands
    exact Or.inr (stands.add_zero zero near).moderate

theorem Within.add {left right : Float} {reach : Int} (first : Within reach left)
    (second : Within reach right) (near : reach ≤ 900) : Within (reach + 2) (left + right) := by
  rcases second with zero | moderate
  · exact (first.add_zero zero (by omega)).mono (by omega)
  · exact Or.inr (first.add_moderate moderate near)

theorem Within.mul {left right : Float} {reach further : Int} (first : Within reach left)
    (second : Within further right) (near : reach + further ≤ 900) :
    Within (reach + further + 2) (left * right) := by
  have product : (left * right).toModel =
      .pack (UnpackedFloat.mul Format.binary64 left.toModel.unpack right.toModel.unpack) := rfl
  rcases first with zero | moderate
  · refine Or.inl ?_
    rcases second with zero' | ⟨mantissa, exponent, positive, unpacked, -⟩
    · rw [product, zero, zero']
      exact unpack_pack_zero
    · rw [product, zero, unpacked]
      exact unpack_pack_zero
  · rcases second with zero' | moderate'
    · obtain ⟨mantissa, exponent, positive, unpacked, -⟩ := moderate
      refine Or.inl ?_
      rw [product, zero', unpacked]
      exact unpack_pack_zero
    · exact Or.inr (moderate.mul moderate' near)

theorem Within.div {left right : Float} {reach further : Int} (first : Within reach left)
    (second : Moderate further right) (near : reach + further ≤ 900) :
    Within (reach + further + 1) (left / right) := by
  rcases first with zero | moderate
  · have quotient : (left / right).toModel =
        .pack (UnpackedFloat.div Format.binary64 left.toModel.unpack right.toModel.unpack) := rfl
    obtain ⟨mantissa, exponent, positive, unpacked, -⟩ := second
    rw [zero, unpacked] at quotient
    refine Or.inl ?_
    rw [quotient]
    exact unpack_pack_zero
  · exact Or.inr (moderate.div second near)

theorem within_toFloat {number : Nat} (small : number < 2 ^ 53) :
    Within 53 number.toUInt64.toFloat := by
  by_cases zero : number = 0
  · subst zero
    exact Or.inl (by rfl)
  · obtain ⟨_, stands, -⟩ := stands_toFloat zero small
    exact Or.inr stands.moderate

theorem within_ofNat {number : Nat} (small : number < 2 ^ 53) : Within 55 (Float.ofNat number) := by
  by_cases zero : number = 0
  · subst zero
    exact Or.inl (by rfl)
  · obtain ⟨_, stands, -⟩ := stands_ofNat zero small
    exact Or.inr stands.moderate

end Switchyard
