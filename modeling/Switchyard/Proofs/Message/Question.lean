import Mathlib.Data.List.TakeWhile
import Switchyard.Message
set_option autoImplicit false

/-! Whether a message asks a question does not depend on the case of its letters: no letter has a
blank or a question mark as its lower-case form, and blanks and question marks have no other case.
Main statement: `Message.question_mem_intents`. -/
namespace Switchyard

namespace Text

/-- The code points of the blanks and of the question mark. -/
def landmarks : List (Nat × Nat) := [
  (9, 13), (0x20, 0x20), (0x3F, 0x3F), (0x85, 0x85), (0xA0, 0xA0), (0x1680, 0x1680),
  (0x2000, 0x200A), (0x2028, 0x2029), (0x202F, 0x202F), (0x205F, 0x205F), (0x3000, 0x3000)]

def IsLandmark (code : Nat) : Prop := ∃ mark ∈ landmarks, mark.1 ≤ code ∧ code ≤ mark.2

theorem isLandmark_of_blank {char : Char} (blank : isBlank char = true) :
    IsLandmark char.toNat := by
  simp only [isBlank, Bool.or_eq_true, Bool.and_eq_true, decide_eq_true_eq] at blank
  simp only [IsLandmark, landmarks, List.mem_cons, List.not_mem_nil, or_false,
    exists_eq_or_imp, exists_eq_left]
  omega

theorem isLandmark_question : IsLandmark '?'.toNat := ⟨(0x3F, 0x3F), by decide, by decide⟩

/-- No letter of the range is a landmark, and no lower-case form of one. -/
def CaseRange.avoids (range : CaseRange) (mark : Nat × Nat) : Bool :=
  (range.high < mark.1 || mark.2 < range.low) &&
    ((range.high : Int) + range.shift < mark.1 || (mark.2 : Int) < range.low + range.shift)

theorem lowerRanges_avoid :
    ∀ range ∈ lowerRanges, ∀ mark ∈ landmarks, range.avoids mark = true := by
  decide +kernel

theorem lowerCode_cases (ranges : List CaseRange) (code : Nat) :
    lowerCode ranges code = code ∨ ∃ range ∈ ranges, range.low ≤ code ∧ code ≤ range.high ∧
      lowerCode ranges code = ((code : Int) + range.shift).toNat := by
  induction ranges with
  | nil => exact Or.inl rfl
  | cons range rest ih =>
    unfold lowerCode
    by_cases below : code < range.low
    · rw [if_pos below]
      exact Or.inl rfl
    · rw [if_neg below]
      by_cases inside : code ≤ range.high
      · rw [if_pos inside]
        by_cases onStride : (code - range.low) % range.stride = 0
        · rw [if_pos onStride]
          exact Or.inr ⟨range, List.mem_cons_self, Nat.not_lt.mp below, inside, rfl⟩
        · rw [if_neg onStride]
          exact Or.inl rfl
      · rw [if_neg inside]
        rcases ih with same | ⟨moving, known, low, high, moved⟩
        · exact Or.inl same
        · exact Or.inr ⟨moving, List.mem_cons_of_mem _ known, low, high, moved⟩

theorem not_isLandmark_of_moved {code : Nat} (moved : lowerCode lowerRanges code ≠ code) :
    ¬ IsLandmark code ∧ ¬ IsLandmark (lowerCode lowerRanges code) := by
  rcases lowerCode_cases lowerRanges code with same | ⟨range, known, low, high, shifted⟩
  · exact absurd same moved
  · rw [shifted]
    constructor
    · rintro ⟨mark, isMark, above, below⟩
      have apart := lowerRanges_avoid range known mark isMark
      simp only [CaseRange.avoids, Bool.and_eq_true, Bool.or_eq_true, decide_eq_true_eq] at apart
      omega
    · rintro ⟨mark, isMark, above, below⟩
      have apart := lowerRanges_avoid range known mark isMark
      simp only [CaseRange.avoids, Bool.and_eq_true, Bool.or_eq_true, decide_eq_true_eq] at apart
      have positive : 0 < mark.1 := by
        have all : ∀ mark ∈ landmarks, 0 < mark.1 := by decide
        exact all mark isMark
      omega

theorem lowerChar_cases (char : Char) :
    lowerChar char = char ∨
      (¬ IsLandmark char.toNat ∧ ¬ IsLandmark (lowerChar char).toNat) := by
  by_cases same : lowerCode lowerRanges char.toNat = char.toNat
  · refine Or.inl ?_
    rw [lowerChar, same, Char.ofNat_toNat]
  · obtain ⟨before, after⟩ := not_isLandmark_of_moved same
    refine Or.inr ⟨before, ?_⟩
    unfold lowerChar Char.ofNat
    by_cases valid : (lowerCode lowerRanges char.toNat).isValidChar
    · rw [dif_pos valid]
      exact after
    · rw [dif_neg valid]
      rintro ⟨mark, isMark, above, -⟩
      have all : ∀ mark ∈ landmarks, 0 < mark.1 := by decide
      exact absurd above (Nat.not_le.mpr (all mark isMark))

/-- Of a text that is written last first: its first character other than a blank asks. -/
def asks (backwards : List Char) : Bool := backwards.find? (!isBlank ·) == some '?'

theorem asks_cons (char : Char) (rest : List Char) :
    asks (char :: rest) = if isBlank char then asks rest else char == '?' := by
  unfold asks
  cases blank : isBlank char <;> simp [blank]

theorem endsInQuestionMark_eq (chars : List Char) :
    endsInQuestionMark chars = asks chars.reverse := by
  rw [endsInQuestionMark, endsIn, trimEnd, trimStart, List.getLast?_reverse, asks,
    List.find?_not_eq_head?_dropWhile]

theorem asks_lowerAt (before after written : List Char) (char : Char) :
    asks ((lowerAt before char after).reverse ++ written) =
      if isBlank char then asks written else char == '?' := by
  unfold lowerAt
  by_cases sigma : char = 'Σ'
  · subst sigma
    have blank : isBlank 'Σ' = false ∧ isBlank 'ς' = false ∧ isBlank 'σ' = false := by decide
    rw [if_pos rfl]
    cases endsWord before after <;> simp [asks_cons, blank]
  · rw [if_neg sigma]
    by_cases dotted : char = 'İ'
    · subst dotted
      have blank : isBlank 'İ' = false ∧ isBlank '\u0307' = false := by decide
      rw [if_pos rfl]
      simp [asks_cons, blank]
    · rw [if_neg dotted]
      simp only [List.reverse_singleton, List.singleton_append, asks_cons]
      rcases lowerChar_cases char with same | ⟨plain, plainAfter⟩
      · rw [same]
      · have blank : isBlank char = false :=
          Bool.eq_false_iff.mpr fun blank => plain (isLandmark_of_blank blank)
        have blankAfter : isBlank (lowerChar char) = false :=
          Bool.eq_false_iff.mpr fun blank => plainAfter (isLandmark_of_blank blank)
        have mark : char ≠ '?' := by
          rintro rfl
          exact plain isLandmark_question
        have markAfter : lowerChar char ≠ '?' := by
          intro same
          rw [same] at plainAfter
          exact plainAfter isLandmark_question
        rw [blank, blankAfter, beq_eq_false_iff_ne.mpr mark, beq_eq_false_iff_ne.mpr markAfter]

theorem asks_lowerOnto (written before after : List Char) (same : asks written = asks before) :
    asks (lowerOnto written before after).reverse = asks (after.reverse ++ before) := by
  induction after generalizing written before with
  | nil =>
    rw [lowerOnto, List.reverse_reverse]
    exact same
  | cons char rest ih =>
    have next : asks ((lowerAt before char rest).reverse ++ written) = asks (char :: before) := by
      rw [asks_lowerAt, asks_cons, same]
    rw [lowerOnto, ih _ _ next, List.reverse_cons, List.append_assoc]
    rfl

theorem endsInQuestionMark_lower (chars : List Char) :
    endsInQuestionMark (lower chars) = endsInQuestionMark chars := by
  rw [endsInQuestionMark_eq, endsInQuestionMark_eq, lower, asks_lowerOnto _ _ _ rfl,
    List.append_nil]

end Text

namespace Message

def greets (message : String) : Bool :=
  greetings.contains (String.ofList (Text.firstWord (Text.lower message.toList)))

def pleads (message : String) : Bool :=
  Text.hasInfix "help".toList (Text.lower message.toList)

/-- The intents of a message that greets, asks and pleads, or does not. -/
def intentsOf (greets asks pleads : Bool) : List String :=
  let found := (if greets then ["greeting"] else []) ++ (if asks then ["question"] else []) ++
    (if pleads then ["help_request"] else [])
  if found.isEmpty then ["statement"] else found

theorem intents_eq (message : String) :
    intents message = intentsOf (greets message) (isQuestion message) (pleads message) := by
  have question : Text.endsInQuestionMark (Text.lower message.toList) = isQuestion message :=
    Text.endsInQuestionMark_lower message.toList
  unfold intents
  dsimp only
  rw [question]
  rfl

theorem question_mem_intents (message : String) :
    "question" ∈ intents message ↔ isQuestion message = true := by
  rw [intents_eq]
  cases greets message <;> cases isQuestion message <;> cases pleads message <;> decide

theorem greeting_mem_intents (message : String) :
    "greeting" ∈ intents message ↔ greets message = true := by
  rw [intents_eq]
  cases greets message <;> cases isQuestion message <;> cases pleads message <;> decide

end Message

end Switchyard
