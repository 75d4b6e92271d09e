import Switchyard.Proofs.Message.Complexity
set_option autoImplicit false

/-! What the form of a message does to its score. Main statement: `Message.scoreOf_asked_ne`, a
question has another score than a statement of as many words, as long as these are not so many that
rounding hides the difference. -/
namespace Switchyard.Message

def questionPart (message : String) : Float := if isQuestion message then questionSignal else 0.0

def scoreOf (signal : Float) : Float :=
  complexityFloor + (1.0 - complexityFloor) * (signal / (signal + halfSignal))

theorem complexity_eq_scoreOf (message : String) :
    complexity message = scoreOf (Float.ofNat (wordCount message) + questionPart message) := rfl

theorem questionPart_eq_iff (message : String) :
    questionPart message = questionSignal ↔ isQuestion message = true := by
  have different : (0.0 : Float) ≠ questionSignal := by decide
  unfold questionPart
  cases isQuestion message <;> simp [different]

theorem floorValue_le : floorValue ≤ 1 := by norm_num [floorValue, valueOf]

theorem restValue_bounds : 1 / 4 ≤ restValue ∧ restValue ≤ 1 / 2 := by
  constructor <;> norm_num [restValue, valueOf]

/-! The score of a signal as a number. -/

/-- How far a signal takes the score from its floor towards one. -/
def share (signal : ℚ) : ℚ := signal / (signal + 24)

theorem share_bounds {signal : ℚ} (positive : 0 < signal) : 0 < share signal ∧ share signal < 1 := by
  have larger : 0 < signal + 24 := by linarith
  constructor
  · exact div_pos positive larger
  · rw [share, div_lt_one larger]
    linarith

/-- A longer signal of bounded length goes visibly further. -/
theorem share_gap {signal longer : ℚ} (positive : 0 < signal) (apart : signal + 5 ≤ longer)
    (bounded : longer ≤ 2 ^ 21) : 1 / 2 ^ 40 ≤ share longer - share signal := by
  have wide : 0 < signal + 24 := by linarith
  have wider : 0 < longer + 24 := by linarith
  have gap : share longer - share signal =
      24 * (longer - signal) / ((longer + 24) * (signal + 24)) := by
    rw [share, share]
    field_simp
    ring
  have below : (longer + 24) * (signal + 24) ≤ 2 ^ 22 * 2 ^ 22 := by
    apply mul_le_mul <;> linarith
  rw [gap, le_div_iff₀ (mul_pos wider wide)]
  linarith

theorem quotient_near {signal sum quotient : ℚ} (positive : 0 < signal)
    (summed : Near 1 sum (signal + 24)) (divided : Near 3 quotient (signal / sum)) :
    |quotient - share signal| ≤ 8 * grain := by
  obtain ⟨least, most⟩ := share_bounds positive
  rw [Near, one_mul, abs_sub_comm] at summed
  have half : signal + 24 ≤ 2 * sum := by
    have above := (abs_le.mp summed).2
    rw [grain] at above
    norm_num at above
    linarith
  have sumPos : 0 < sum := by linarith
  have moved : |signal / sum - share signal| ≤ 2 * grain := by
    have split : signal / sum - share signal = share signal * ((signal + 24 - sum) / sum) := by
      rw [share]
      field_simp
    rw [split, abs_mul, abs_div, abs_of_pos least, abs_of_pos sumPos]
    have part : |signal + 24 - sum| / sum ≤ 2 * grain := by
      rw [div_le_iff₀ sumPos]
      linarith [mul_le_mul_of_nonneg_left half grain_pos.le]
    exact (mul_le_of_le_one_left (by positivity) most.le).trans part
  have exact : signal / sum ≤ 2 := by
    rw [div_le_iff₀ sumPos]
    linarith
  rw [Near] at divided
  have rounded : |quotient - signal / sum| ≤ 6 * grain := by
    linarith [mul_le_mul_of_nonneg_left exact grain_pos.le]
  calc |quotient - share signal|
      ≤ |quotient - signal / sum| + |signal / sum - share signal| := abs_sub_le _ _ _
    _ ≤ 6 * grain + 2 * grain := add_le_add rounded moved
    _ = 8 * grain := by ring

theorem scoreOf_near {number : Float} {signal : ℚ} (stands : Stands 60 number signal) :
    ∃ score, Stands 129 (scoreOf number) score ∧
      |score - (floorValue + restValue * share signal)| ≤ 8 * grain := by
  obtain ⟨sum, standsSum, summed⟩ := stands.add stands_half (by decide)
  obtain ⟨quotient, standsQuotient, divided⟩ := stands.div standsSum (by decide)
  obtain ⟨grown, standsGrown, multiplied⟩ := stands_rest.mul standsQuotient (by decide)
  obtain ⟨score, standsScore, added⟩ := (stands_floor.mono (by decide)).add standsGrown (by decide)
  refine ⟨score, standsScore, ?_⟩
  have near := quotient_near stands.pos summed divided
  obtain ⟨-, most⟩ := share_bounds stands.pos
  obtain ⟨some, rest⟩ := restValue_bounds
  have floor := floorValue_le
  have tiny : grain ≤ 1 / 16 := by norm_num [grain]
  have quotientMost : quotient ≤ 2 := by linarith [(abs_le.mp near).2]
  have product : restValue * quotient ≤ 1 := by
    have := mul_le_mul_of_nonneg_right rest standsQuotient.pos.le
    linarith
  rw [Near, one_mul] at multiplied added
  have second : |grown - restValue * quotient| ≤ grain :=
    multiplied.trans (mul_le_of_le_one_right grain_pos.le product)
  have first : |score - (floorValue + grown)| ≤ 3 * grain := by
    refine added.trans ?_
    have : floorValue + grown ≤ 3 := by linarith [(abs_le.mp second).2]
    linarith [mul_le_mul_of_nonneg_left this grain_pos.le]
  have third : |restValue * quotient - restValue * share signal| ≤ 4 * grain := by
    rw [← mul_sub, abs_mul, abs_of_nonneg (by linarith)]
    have := mul_le_mul rest near (abs_nonneg _) (by norm_num)
    linarith
  rw [abs_le] at first second third ⊢
  constructor <;> linarith

/-- A question scores more than a statement of as many words, unless it is longer than any message
that fits into a context. -/
theorem scoreOf_asked_ne {words : Nat} (few : words ≤ 2 ^ 20) :
    scoreOf (Float.ofNat words + questionSignal) ≠ scoreOf (Float.ofNat words + 0.0) := by
  rcases Nat.eq_zero_or_pos words with rfl | some
  · decide +kernel
  intro same
  have large : (1 : ℚ) ≤ words := by exact_mod_cast some
  have small : (words : ℚ) ≤ 2 ^ 20 := by exact_mod_cast few
  obtain ⟨told, standsTold, counted⟩ := stands_ofNat (Nat.ne_of_gt some) (by omega)
  obtain ⟨asked, standsAsked, added⟩ := standsTold.add stands_question (by decide)
  have standsPlain : Stands 55 (Float.ofNat words + 0.0) told := standsTold.add_zero rfl (by decide)
  obtain ⟨low, standsLow, nearLow⟩ := scoreOf_near (standsPlain.mono (by decide))
  obtain ⟨high, standsHigh, nearHigh⟩ := scoreOf_near (standsAsked.mono (by decide))
  rw [same] at standsHigh
  have equal := standsHigh.unique standsLow
  subst equal
  rw [Near, grain, abs_le] at counted added
  norm_num at counted added
  have gap := @share_gap told asked standsTold.pos (by linarith) (by linarith)
  obtain ⟨rest, -⟩ := restValue_bounds
  have visible : 1 / 4 * (1 / 2 ^ 40) ≤ restValue * (share asked - share told) :=
    mul_le_mul rest gap (by norm_num) (by linarith)
  rw [grain, abs_le] at nearLow nearHigh
  norm_num at nearLow nearHigh visible
  linarith

/-- Whether the signal of a question has been counted can be seen from the score of a message that
fits into a context. -/
theorem complexity_eq_iff {message : String} (few : wordCount message ≤ 2 ^ 20) :
    complexity message = scoreOf (Float.ofNat (wordCount message) + questionSignal) ↔
      isQuestion message = true := by
  rw [complexity_eq_scoreOf, questionPart]
  cases isQuestion message with
  | true => simp
  | false => simp [(scoreOf_asked_ne few).symm]

end Switchyard.Message
