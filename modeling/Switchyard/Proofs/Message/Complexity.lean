import Switchyard.Json.Printer
import Switchyard.Message
import Switchyard.Proofs.Number.Moderate
set_option autoImplicit false

/-! How many words a message has and that its complexity is a number. Main statement:
`Message.complexity_isFinite`. -/
namespace Switchyard

namespace Text

theorem length_words_le (chars : List Char) : (words chars).length ≤ chars.length := by
  have split : (if (chars.foldr prependChar ([], [])).1.isEmpty then 0 else 1) +
      (chars.foldr prependChar ([], [])).2.length ≤ chars.length := by
    induction chars with
    | nil => exact Nat.le_refl _
    | cons char rest ih =>
      rw [List.foldr_cons, List.length_cons]
      generalize rest.foldr prependChar ([], []) = split at ih ⊢
      obtain ⟨word, words⟩ := split
      unfold prependChar
      cases isBlank char with
      | true =>
        cases word with
        | nil =>
          simp only [List.isEmpty_nil, if_true] at ih ⊢
          omega
        | cons first others =>
          simp only [List.isEmpty_cons, List.isEmpty_nil, Bool.false_eq_true, if_true, if_false,
            List.length_cons] at ih ⊢
          omega
      | false =>
        simp only [List.isEmpty_cons, Bool.false_eq_true, if_false] at ih ⊢
        omega
  unfold words
  dsimp only
  generalize chars.foldr prependChar ([], []) = whole at split ⊢
  obtain ⟨word, others⟩ := whole
  cases word with
  | nil =>
    simp only [List.isEmpty_nil, if_true] at split ⊢
    omega
  | cons first rest =>
    simp only [List.isEmpty_cons, Bool.false_eq_true, if_false, List.length_cons] at split ⊢
    omega

theorem length_trim_le (chars : List Char) : (trim chars).length ≤ chars.length := by
  have first : (trimStart chars).length ≤ chars.length := (List.dropWhile_sublist _).length_le
  have last : (trimStart (trimStart chars).reverse).length ≤ (trimStart chars).reverse.length :=
    (List.dropWhile_sublist _).length_le
  rw [trim, trimEnd, List.length_reverse]
  rw [List.length_reverse] at last
  exact Nat.le_trans last first

end Text

namespace Json

theorem length_le_quotedSize (text : String) : text.toList.length ≤ quotedSize text := by
  have some : ∀ char, 1 ≤ (escape char).utf8ByteSize := by
    intro char
    unfold escape
    repeat' split
    all_goals first
      | decide
      | (rw [String.utf8ByteSize_singleton]; exact char.utf8Size_pos)
      | (rw [String.utf8ByteSize_append]; exact Nat.le_add_right_of_le (by decide))
  have counted : ∀ (chars : List Char) (start : Nat), start + chars.length ≤
      chars.foldl (fun size char => size + (escape char).utf8ByteSize) start := by
    intro chars
    induction chars with
    | nil => exact fun start => Nat.le_refl _
    | cons char rest ih =>
      intro start
      have later := ih (start + (escape char).utf8ByteSize)
      have here := some char
      rw [List.foldl_cons, List.length_cons]
      omega
  have whole := counted text.toList 1
  unfold quotedSize
  omega

end Json

namespace Message

theorem wordCount_trimmed_le (message : String) :
    wordCount (trimmed message) ≤ (Json.str message).size := by
  have words := Text.length_words_le (trimmed message).toList
  have trims := Text.length_trim_le message.toList
  have written := Json.length_le_quotedSize message
  rw [trimmed, String.toList_ofList] at words
  rw [wordCount, trimmed, String.toList_ofList]
  exact Nat.le_trans words (Nat.le_trans trims written)

/-! The values of the constants. -/

def floorValue : ℚ := valueOf 5404319552844595 (-53)

def restValue : ℚ := valueOf 7205759403792794 (-54)

theorem stands_floor : Stands 2 complexityFloor floorValue :=
  ⟨5404319552844595, -53, by decide, by rfl, by constructor <;> decide, by decide, by decide, rfl⟩

theorem stands_rest : Stands 2 (1.0 - complexityFloor) restValue :=
  ⟨7205759403792794, -54, by decide, by rfl, by constructor <;> decide, by decide, by decide, rfl⟩

theorem stands_half : Stands 60 halfSignal 24 :=
  ⟨6755399441055744, -48, by decide, by rfl, by constructor <;> decide, by decide, by decide, by
    norm_num [valueOf]⟩

theorem stands_question : Stands 55 questionSignal 6 :=
  ⟨6755399441055744, -50, by decide, by rfl, by constructor <;> decide, by decide, by decide, by
    norm_num [valueOf]⟩

theorem complexity_isFinite {message : String} (few : wordCount message < 2 ^ 53) :
    (complexity message).isFinite = true := by
  have half := stands_half.moderate
  have question := stands_question.moderate
  have zero : (0.0 : Float).toModel.unpack = .zero .positive := rfl
  have signal : Within 60 (Float.ofNat (wordCount message) +
      (if isQuestion message then questionSignal else 0.0)) := by
    have words := within_ofNat few
    cases isQuestion message with
    | true => exact (words.add (Or.inr question) (by decide)).mono (by decide)
    | false => exact (words.add_zero zero (by decide)).mono (by decide)
  have share := signal.div (signal.add_moderate half (by decide)) (by decide)
  have grown := Within.mul (Or.inr stands_rest.moderate) share (by decide)
  have score := Within.add (Or.inr (stands_floor.moderate.mono (by decide))) grown (by decide)
  exact score.isFinite

end Message

end Switchyard
