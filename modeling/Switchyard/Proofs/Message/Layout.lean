import Switchyard.Proofs.Message.Question
set_option autoImplicit false

/-! What a message says does not depend on how it is laid out: which blanks stand around its words
and between them, and how many. A text is read as the words that it lays out, and whatever is looked
for in a message is found in its words. Main statements: `Text.laidOut_iff`, a text lays out its
words and no others; `Text.words_lower`, lower case keeps the words apart;
`Message.complexity_eq_of_words` and `Message.intents_eq_of_words`. -/
namespace Switchyard

namespace Text

def Edge (rest : List Char) : Prop := ∀ char ∈ rest.head?, isBlank char = true

structure IsWord (word : List Char) : Prop where
  nonempty : word ≠ []
  solid : ∀ char ∈ word, isBlank char = false

/-- The text has these words in this order, with any blanks around them and between them. -/
inductive LaidOut : List (List Char) → List Char → Prop
  | nothing : LaidOut [] []
  | blank {parts : List (List Char)} {char : Char} {rest : List Char}
      (isBlank : isBlank char = true) (later : LaidOut parts rest) : LaidOut parts (char :: rest)
  | word {parts : List (List Char)} {word rest : List Char} (isWord : IsWord word)
      (edge : Edge rest) (later : LaidOut parts rest) : LaidOut (word :: parts) (word ++ rest)

theorem solid_of_all {word : List Char} (all : word.all (fun char => !isBlank char) = true) :
    ∀ char ∈ word, isBlank char = false := by
  intro char inside
  simpa using List.all_eq_true.mp all char inside

theorem edge_nil : Edge [] := fun _ inside => by cases inside

theorem edge_cons {char : Char} (blank : isBlank char = true) (rest : List Char) :
    Edge (char :: rest) := by
  intro first inside
  rwa [← Option.mem_some.mp inside]

theorem edge_dropWhile (chars : List Char) : Edge (chars.dropWhile fun char => !isBlank char) := by
  intro first inside
  have stops := List.head?_dropWhile_not (fun char => !isBlank char) chars
  rw [Option.mem_def.mp inside] at stops
  simpa using stops

theorem IsWord.not_edge {word : List Char} (isWord : IsWord word) (rest : List Char) :
    ¬ Edge (word ++ rest) := by
  intro edge
  cases word with
  | nil => exact isWord.nonempty rfl
  | cons char others =>
    have solid := isWord.solid char List.mem_cons_self
    rw [edge char rfl] at solid
    cases solid

/-! The words of a text. -/

theorem words_cons_of_blank {char : Char} (blank : isBlank char = true) (rest : List Char) :
    words (char :: rest) = words rest := by
  unfold words
  dsimp only
  rw [List.foldr_cons]
  generalize rest.foldr prependChar ([], []) = split
  simp [prependChar, blank]

theorem foldr_prependChar_solid {word : List Char} (solid : ∀ char ∈ word, isBlank char = false)
    (split : List Char × List (List Char)) :
    word.foldr prependChar split = (word ++ split.1, split.2) := by
  induction word with
  | nil => rfl
  | cons char others ih =>
    obtain ⟨first, later⟩ := List.forall_mem_cons.mp solid
    rw [List.foldr_cons, ih later]
    simp [prependChar, first]

theorem foldr_prependChar_edge {rest : List Char} (edge : Edge rest) :
    rest.foldr prependChar ([], []) = ([], words rest) := by
  cases rest with
  | nil => rfl
  | cons char others =>
    rw [words_cons_of_blank (edge char rfl), List.foldr_cons]
    simp [prependChar, edge char rfl, words]

theorem words_append {word rest : List Char} (isWord : IsWord word) (edge : Edge rest) :
    words (word ++ rest) = word :: words rest := by
  have split : (word ++ rest).foldr prependChar ([], []) = (word, words rest) := by
    rw [List.foldr_append, foldr_prependChar_edge edge, foldr_prependChar_solid isWord.solid,
      List.append_nil]
  have full : word.isEmpty = false := List.isEmpty_eq_false_iff.mpr isWord.nonempty
  rw [words, split]
  simp only [full, Bool.false_eq_true, if_false]

theorem LaidOut.words_eq {parts : List (List Char)} {chars : List Char}
    (laidOut : LaidOut parts chars) : words chars = parts := by
  induction laidOut with
  | nothing => rfl
  | blank blank later ih => rw [words_cons_of_blank blank, ih]
  | word isWord edge later ih => rw [words_append isWord edge, ih]

/-- Every text lays out its words: it is taken apart one blank or one whole word at a time. -/
theorem laidOut_words (chars : List Char) : LaidOut (words chars) chars := by
  match chars with
  | [] => exact .nothing
  | char :: others =>
    by_cases blank : isBlank char = true
    · rw [words_cons_of_blank blank]
      exact .blank blank (laidOut_words others)
    · let word := (char :: others).takeWhile fun char => !isBlank char
      let rest := (char :: others).dropWhile fun char => !isBlank char
      have whole : word ++ rest = char :: others := List.takeWhile_append_dropWhile
      have isWord : IsWord word := by
        constructor
        · simp [word, blank]
        · intro first inside
          simpa using List.mem_takeWhile_imp inside
      have edge : Edge rest := edge_dropWhile _
      have shorter : rest.length < (char :: others).length := by
        have positive := List.length_pos_iff.mpr isWord.nonempty
        rw [← whole, List.length_append]
        omega
      rw [← whole, words_append isWord edge]
      exact .word isWord edge (laidOut_words rest)
termination_by chars.length
decreasing_by
  · exact Nat.lt_succ_self _
  · exact shorter

theorem laidOut_iff (parts : List (List Char)) (chars : List Char) :
    LaidOut parts chars ↔ words chars = parts :=
  ⟨LaidOut.words_eq, fun same => same ▸ laidOut_words chars⟩

theorem LaidOut.filter_eq {parts : List (List Char)} {chars : List Char}
    (laidOut : LaidOut parts chars) : (chars.filter fun char => !isBlank char) = parts.flatten := by
  induction laidOut with
  | nothing => rfl
  | blank blank later ih =>
    rw [List.filter_cons_of_neg (by simp [blank]), ih]
  | word isWord edge later ih =>
    have kept := List.filter_eq_self.mpr fun char inside => by
      show (!isBlank char) = true
      rw [isWord.solid char inside]
      rfl
    rw [List.filter_append, kept, ih, List.flatten_cons]

theorem endsInQuestionMark_eq_words (chars : List Char) :
    endsInQuestionMark chars = ((words chars).flatten.getLast? == some '?') := by
  rw [endsInQuestionMark_eq, asks, ← List.head?_filter, List.filter_reverse, List.head?_reverse,
    (laidOut_words chars).filter_eq]

/-! Trimming. -/

theorem words_trimStart (chars : List Char) : words (trimStart chars) = words chars := by
  induction chars with
  | nil => rfl
  | cons char rest ih =>
    by_cases blank : isBlank char = true
    · rw [words_cons_of_blank blank, ← ih, trimStart, List.dropWhile_cons_of_pos blank, trimStart]
    · rw [trimStart, List.dropWhile_cons_of_neg blank]

theorem words_append_blanks (chars : List Char) {blanks : List Char}
    (blank : ∀ char ∈ blanks, isBlank char = true) : words (chars ++ blanks) = words chars := by
  have nothing : blanks.foldr prependChar ([], []) = ([], []) := by
    induction blanks with
    | nil => rfl
    | cons char rest ih =>
      obtain ⟨first, later⟩ := List.forall_mem_cons.mp blank
      rw [List.foldr_cons, ih later]
      simp [prependChar, first]
  rw [words, words, List.foldr_append, nothing]

theorem words_trimEnd (chars : List Char) : words (trimEnd chars) = words chars := by
  let blanks := (chars.reverse.takeWhile isBlank).reverse
  have blank : ∀ char ∈ blanks, isBlank char = true := by
    intro char inside
    exact List.mem_takeWhile_imp (List.mem_reverse.mp inside)
  have split : trimEnd chars ++ blanks = chars := by
    rw [trimEnd, trimStart, ← List.reverse_append, List.takeWhile_append_dropWhile,
      List.reverse_reverse]
  calc words (trimEnd chars)
    _ = words (trimEnd chars ++ blanks) := (words_append_blanks _ blank).symm
    _ = words chars := by rw [split]

theorem words_trim (chars : List Char) : words (trim chars) = words chars := by
  rw [trim, words_trimEnd, words_trimStart]

theorem trim_eq_nil_iff (chars : List Char) : trim chars = [] ↔ words chars = [] := by
  constructor
  · intro empty
    rw [← words_trim, empty]
    rfl
  · intro none
    have letters := (laidOut_words chars).filter_eq
    rw [none, List.flatten_nil, List.filter_eq_nil_iff] at letters
    have started : trimStart chars = [] := by
      apply List.dropWhile_eq_nil_iff.mpr
      intro char inside
      simpa using letters char inside
    rw [trim, started]
    rfl

theorem endsIn_trim (chars : List Char) : endsIn '?' (trim chars) = endsInQuestionMark chars := by
  show endsInQuestionMark (trimStart chars) = endsInQuestionMark chars
  rw [endsInQuestionMark_eq_words, endsInQuestionMark_eq_words, words_trimStart]

/-! Blanks are no letters. -/

theorem exists_of_covered {ranges : List (Nat × Nat)} {code : Nat}
    (isCovered : covered ranges code = true) : ∃ range ∈ ranges, range.1 ≤ code ∧ code ≤ range.2 := by
  induction ranges with
  | nil => cases isCovered
  | cons range rest ih =>
    obtain ⟨low, high⟩ := range
    unfold covered at isCovered
    split at isCovered
    · cases isCovered
    · split at isCovered
      · exact ⟨(low, high), List.mem_cons_self, by omega, by omega⟩
      · obtain ⟨found, known, bounds⟩ := ih isCovered
        exact ⟨found, List.mem_cons_of_mem _ known, bounds⟩

/-- A set of characters that stays away from all landmarks. -/
def Avoids (ranges : List (Nat × Nat)) : Prop :=
  ∀ range ∈ ranges, ∀ mark ∈ landmarks, range.2 < mark.1 ∨ mark.2 < range.1

instance (ranges : List (Nat × Nat)) : Decidable (Avoids ranges) :=
  inferInstanceAs (Decidable (∀ _ ∈ _, _))

theorem Avoids.not_covered {ranges : List (Nat × Nat)} (avoids : Avoids ranges) {char : Char}
    (blank : isBlank char = true) : covered ranges char.toNat = false := by
  refine Bool.eq_false_iff.mpr fun isCovered => ?_
  obtain ⟨range, known, low, high⟩ := exists_of_covered isCovered
  obtain ⟨mark, isMark, above, below⟩ := isLandmark_of_blank blank
  have apart := avoids range known mark isMark
  omega

theorem casedRanges_avoid : Avoids casedRanges := by decide +kernel

theorem caseIgnorableRanges_avoid : Avoids caseIgnorableRanges := by decide +kernel

theorem alphanumericRanges_avoid : Avoids alphanumericRanges := by decide +kernel

/-! Lower case. -/

theorem meetsCased_append (chars : List Char) {rest : List Char} (edge : Edge rest) :
    meetsCased (chars ++ rest) = meetsCased chars := by
  induction chars with
  | nil =>
    cases rest with
    | nil => rfl
    | cons char others =>
      have ignorable : isCaseIgnorable char = false :=
        caseIgnorableRanges_avoid.not_covered (edge char rfl)
      have cased : isCased char = false := casedRanges_avoid.not_covered (edge char rfl)
      simp [meetsCased, ignorable, cased]
  | cons char others ih =>
    unfold meetsCased at ih ⊢
    cases ignorable : isCaseIgnorable char with
    | true => simpa [ignorable] using ih
    | false => simp [ignorable]

theorem lowerAt_append (before : List Char) {behind : List Char} (char : Char) (after : List Char)
    {rest : List Char} (edgeBehind : Edge behind) (edge : Edge rest) :
    lowerAt (before ++ behind) char (after ++ rest) = lowerAt before char after := by
  rw [lowerAt, endsWord, meetsCased_append before edgeBehind, meetsCased_append after edge]
  rfl

/-- The lower-case form of a text that comes after another, which is given last first. -/
def lowerAfter : List Char → List Char → List Char
  | _, [] => []
  | before, char :: after => lowerAt before char after ++ lowerAfter (char :: before) after

theorem lowerOnto_eq (written before after : List Char) :
    lowerOnto written before after = written.reverse ++ lowerAfter before after := by
  induction after generalizing written before with
  | nil => simp [lowerOnto, lowerAfter]
  | cons char rest ih => simp [lowerOnto, lowerAfter, ih]

theorem lower_eq_lowerAfter (chars : List Char) : lower chars = lowerAfter [] chars :=
  lowerOnto_eq [] [] chars

theorem lowerAfter_append (before word : List Char) {behind rest : List Char}
    (edgeBehind : Edge behind) (edge : Edge rest) :
    lowerAfter (before ++ behind) (word ++ rest) =
      lowerAfter before word ++ lowerAfter (word.reverse ++ (before ++ behind)) rest := by
  induction word generalizing before with
  | nil => rfl
  | cons char others ih =>
    rw [List.cons_append, lowerAfter, lowerAfter, lowerAt_append _ _ _ edgeBehind edge,
      ← List.cons_append, ih, List.append_assoc, List.reverse_cons, List.append_assoc]
    rfl

theorem lowerAt_of_blank {char : Char} (blank : isBlank char = true) (before after : List Char) :
    lowerAt before char after = [char] := by
  have sigma : char ≠ 'Σ' := by
    rintro rfl
    exact absurd blank (by decide)
  have dotted : char ≠ 'İ' := by
    rintro rfl
    exact absurd blank (by decide)
  have same : lowerChar char = char :=
    (lowerChar_cases char).resolve_right fun plain => plain.1 (isLandmark_of_blank blank)
  rw [lowerAt, if_neg sigma, if_neg dotted, same]

theorem isWord_lowerAt {char : Char} (solid : isBlank char = false) (before after : List Char) :
    IsWord (lowerAt before char after) := by
  unfold lowerAt
  split
  · constructor
    · exact List.cons_ne_nil _ _
    · cases endsWord before after <;> exact solid_of_all rfl
  · split
    · exact ⟨List.cons_ne_nil _ _, solid_of_all rfl⟩
    · refine ⟨List.cons_ne_nil _ _, List.forall_mem_singleton.mpr ?_⟩
      rcases lowerChar_cases char with same | ⟨-, plain⟩
      · rw [same, solid]
      · exact Bool.eq_false_iff.mpr fun blank => plain (isLandmark_of_blank blank)

theorem isWord_lower {word : List Char} (isWord : IsWord word) : IsWord (lower word) := by
  have solid : ∀ (before word : List Char), (∀ char ∈ word, isBlank char = false) →
      ∀ char ∈ lowerAfter before word, isBlank char = false := by
    intro before word
    induction word generalizing before with
    | nil => exact fun _ => List.forall_mem_nil _
    | cons char others ih =>
      intro solid
      obtain ⟨first, later⟩ := List.forall_mem_cons.mp solid
      exact List.forall_mem_append.mpr
        ⟨(isWord_lowerAt first before others).solid, ih (char :: before) later⟩
  rw [lower_eq_lowerAfter]
  refine ⟨?_, solid [] word isWord.solid⟩
  cases word with
  | nil => exact absurd rfl isWord.nonempty
  | cons char others =>
    have first := isWord.solid char List.mem_cons_self
    exact List.append_ne_nil_of_left_ne_nil (isWord_lowerAt first [] others).nonempty _

theorem edge_lowerAfter {rest : List Char} (edge : Edge rest) (before : List Char) :
    Edge (lowerAfter before rest) := by
  cases rest with
  | nil => exact edge_nil
  | cons char others =>
    rw [lowerAfter, lowerAt_of_blank (edge char rfl)]
    exact edge_cons (edge char rfl) _

/-- In lower case a text lays out the lower-case forms of its words. A word that begins here has to
be told from one that goes on here. -/
theorem LaidOut.lowerAfter {parts : List (List Char)} {chars : List Char}
    (laidOut : LaidOut parts chars) {before : List Char} (edge : Edge before ∨ Edge chars) :
    LaidOut (parts.map lower) (lowerAfter before chars) := by
  induction laidOut generalizing before with
  | nothing => exact .nothing
  | blank blank later ih =>
    rw [Text.lowerAfter, lowerAt_of_blank blank]
    exact .blank blank (ih (Or.inl (edge_cons blank _)))
  | @word parts word rest isWord edgeAfter later ih =>
    have edgeBefore : Edge before := edge.resolve_right (isWord.not_edge _)
    have split := lowerAfter_append [] word edgeBefore edgeAfter
    rw [List.nil_append, ← lower_eq_lowerAfter] at split
    rw [split]
    exact .word (isWord_lower isWord) (edge_lowerAfter edgeAfter _) (ih (Or.inr edgeAfter))

/-- Lower case keeps words apart and leaves none out; it even treats each word as if it stood
alone. -/
theorem words_lower (chars : List Char) : words (lower chars) = (words chars).map lower := by
  rw [lower_eq_lowerAfter]
  exact ((laidOut_words chars).lowerAfter (Or.inl edge_nil)).words_eq

/-! The first word of letters and numbers. -/

def firstWordAmong : List (List Char) → List Char
  | [] => []
  | word :: later => if word.any isAlphanumeric then firstWord word else firstWordAmong later

theorem takeWhile_isAlphanumeric_append (chars : List Char) {rest : List Char} (edge : Edge rest) :
    (chars ++ rest).takeWhile isAlphanumeric = chars.takeWhile isAlphanumeric := by
  induction chars with
  | nil =>
    cases rest with
    | nil => rfl
    | cons char others =>
      have other : isAlphanumeric char = false :=
        alphanumericRanges_avoid.not_covered (edge char rfl)
      simp [other]
  | cons char others ih => rw [List.cons_append, List.takeWhile_cons, List.takeWhile_cons, ih]

theorem LaidOut.firstWord_eq {parts : List (List Char)} {chars : List Char}
    (laidOut : LaidOut parts chars) : firstWord chars = firstWordAmong parts := by
  induction laidOut with
  | nothing => rfl
  | blank blank later ih =>
    have other := alphanumericRanges_avoid.not_covered blank
    rw [← ih, firstWord, firstWord, List.dropWhile_cons_of_pos]
    show (!isAlphanumeric _) = true
    rw [isAlphanumeric, other]
    rfl
  | @word parts word rest isWord edge later ih =>
    rw [firstWordAmong, firstWord, List.dropWhile_append]
    cases some : word.any isAlphanumeric with
    | true =>
      have left : (word.dropWhile fun char => !isAlphanumeric char).isEmpty = false := by
        obtain ⟨char, inside, letter⟩ := List.any_eq_true.mp some
        refine List.isEmpty_eq_false_iff.mpr fun none => ?_
        have dropped := List.dropWhile_eq_nil_iff.mp none char inside
        simp [letter] at dropped
      rw [left, if_neg Bool.false_ne_true, if_pos rfl, takeWhile_isAlphanumeric_append _ edge]
      rfl
    | false =>
      have gone : (word.dropWhile fun char => !isAlphanumeric char) = [] := by
        apply List.dropWhile_eq_nil_iff.mpr
        intro char inside
        simpa using List.any_eq_false.mp some char inside
      rw [gone, List.isEmpty_nil, if_pos rfl, if_neg Bool.false_ne_true, ← ih]
      rfl

/-! Looking for a word in a text. -/

theorem isPrefixOf_append {pattern : List Char} (solid : ∀ char ∈ pattern, isBlank char = false)
    (text : List Char) {rest : List Char} (edge : Edge rest) :
    pattern.isPrefixOf (text ++ rest) = pattern.isPrefixOf text := by
  induction pattern generalizing text with
  | nil => rfl
  | cons char others ih =>
    obtain ⟨first, later⟩ := List.forall_mem_cons.mp solid
    cases text with
    | nil =>
      cases rest with
      | nil => rfl
      | cons blank behind =>
        have differ : char ≠ blank := by
          rintro rfl
          rw [edge char rfl] at first
          cases first
        simp [List.isPrefixOf, differ]
    | cons letter letters =>
      rw [List.cons_append, List.isPrefixOf, List.isPrefixOf, ih later]

theorem hasInfix_append {pattern : List Char} (isWord : IsWord pattern) (chars : List Char)
    {rest : List Char} (edge : Edge rest) :
    hasInfix pattern (chars ++ rest) = (hasInfix pattern chars || hasInfix pattern rest) := by
  induction chars with
  | nil =>
    have absent : hasInfix pattern [] = false := List.isEmpty_eq_false_iff.mpr isWord.nonempty
    rw [absent]
    rfl
  | cons char others ih =>
    have here := isPrefixOf_append isWord.solid (char :: others) edge
    rw [List.cons_append, hasInfix, hasInfix, ← List.cons_append, here, ih, Bool.or_assoc]

theorem LaidOut.hasInfix_eq {pattern : List Char} (isPattern : IsWord pattern)
    {parts : List (List Char)} {chars : List Char} (laidOut : LaidOut parts chars) :
    hasInfix pattern chars = parts.any (hasInfix pattern) := by
  induction laidOut with
  | nothing => exact List.isEmpty_eq_false_iff.mpr isPattern.nonempty
  | @blank parts char rest blank later ih =>
    have absent : pattern.isPrefixOf (char :: rest) = false := by
      have here := isPrefixOf_append isPattern.solid [] (edge_cons blank rest)
      rw [List.nil_append] at here
      rw [here]
      cases pattern with
      | nil => exact absurd rfl isPattern.nonempty
      | cons first others => rfl
    rw [hasInfix, absent, Bool.false_or, ih]
  | word isWord edge later ih => rw [hasInfix_append isPattern _ edge, ih, List.any_cons]

end Text

namespace Message

def words (message : String) : List (List Char) := Text.words message.toList

theorem words_trimmed (message : String) : words (trimmed message) = words message := by
  rw [words, trimmed, String.toList_ofList, Text.words_trim]
  rfl

theorem trimmed_eq_empty_iff (message : String) : trimmed message = "" ↔ words message = [] := by
  rw [words, ← Text.trim_eq_nil_iff, trimmed, ← String.toList_inj, String.toList_ofList]
  rfl

theorem endsIn_trimmed (message : String) :
    Text.endsIn '?' (trimmed message).toList = isQuestion message := by
  rw [trimmed, String.toList_ofList, Text.endsIn_trim]
  rfl

section SameWords

variable {first second : String} (same : words first = words second)
include same

theorem wordCount_eq_of_words : wordCount first = wordCount second :=
  congrArg List.length same

theorem isQuestion_eq_of_words : isQuestion first = isQuestion second := by
  unfold isQuestion
  rw [Text.endsInQuestionMark_eq_words, Text.endsInQuestionMark_eq_words]
  exact congrArg (fun parts : List (List Char) => parts.flatten.getLast? == some '?') same

theorem complexity_eq_of_words : complexity first = complexity second := by
  rw [complexity, complexity, wordCount_eq_of_words same, isQuestion_eq_of_words same]

theorem lower_words_eq :
    Text.words (Text.lower first.toList) = Text.words (Text.lower second.toList) := by
  rw [Text.words_lower, Text.words_lower]
  exact congrArg (List.map Text.lower) same

theorem greets_eq_of_words : greets first = greets second := by
  rw [greets, greets, (Text.laidOut_words _).firstWord_eq, (Text.laidOut_words _).firstWord_eq,
    lower_words_eq same]

theorem pleads_eq_of_words : pleads first = pleads second := by
  have isWord : Text.IsWord "help".toList := ⟨by decide, Text.solid_of_all rfl⟩
  rw [pleads, pleads, (Text.laidOut_words _).hasInfix_eq isWord,
    (Text.laidOut_words _).hasInfix_eq isWord, lower_words_eq same]

theorem intents_eq_of_words : intents first = intents second := by
  rw [intents_eq, intents_eq, greets_eq_of_words same, isQuestion_eq_of_words same,
    pleads_eq_of_words same]

end SameWords

end Message

end Switchyard
