import Mathlib.Data.List.Basic
import Mathlib.Data.List.TakeWhile
import Switchyard.Json.Printer
import Switchyard.Json.Reader
set_option autoImplicit false

/-! How the parts of a text are read: layout is passed over, a number ends where it can, digits and
quoted texts read back as what they are written for. -/
namespace Switchyard.Json

/-! Layout. -/

theorem skipLayout_append {blanks : List Char} (layout : ∀ char ∈ blanks, isLayout char = true)
    (chars : List Char) : skipLayout (blanks ++ chars) = skipLayout chars :=
  List.dropWhile_append_of_pos layout

theorem skipLayout_append_of_cons {chars rest : List Char} {char : Char}
    (first : skipLayout chars = char :: rest) (more : List Char) :
    skipLayout (chars ++ more) = char :: (rest ++ more) := by
  rw [skipLayout] at first ⊢
  rw [List.dropWhile_append, first]
  rfl

theorem skipLayout_cons {char : Char} (solid : isLayout char = false) (rest : List Char) :
    skipLayout (char :: rest) = char :: rest :=
  List.dropWhile_cons_of_neg (by simp [solid])

theorem isLayout_digit {char : Char} (digit : isDigit char = true) : isLayout char = false := by
  cases layout : isLayout char with
  | false => rfl
  | true =>
    simp only [isLayout, Bool.or_eq_true, decide_eq_true_eq] at layout
    rcases layout with ((rfl | rfl) | rfl) | rfl <;> cases digit

/-! Numbers. -/

/-- A number that stands before the text ends there. -/
def EndsNumber (chars : List Char) : Prop :=
  ∀ char ∈ chars.head?, isDigit char = false ∧ char ≠ '.' ∧ char ≠ 'e' ∧ char ≠ 'E'

theorem endsNumber_nil : EndsNumber [] := nofun

theorem endsNumber_cons {char : Char}
    (ends : isDigit char = false ∧ char ≠ '.' ∧ char ≠ 'e' ∧ char ≠ 'E') (rest : List Char) :
    EndsNumber (char :: rest) := by
  rintro _ ⟨⟩
  exact ends

theorem endsNumber_append {blanks : List Char} (layout : ∀ char ∈ blanks, isLayout char = true)
    {chars : List Char} (ends : EndsNumber chars) : EndsNumber (blanks ++ chars) := by
  cases blanks with
  | nil => exact ends
  | cons blank rest =>
    refine endsNumber_cons ?_ _
    have isBlank := layout blank List.mem_cons_self
    simp only [isLayout, Bool.or_eq_true, decide_eq_true_eq] at isBlank
    rcases isBlank with ((rfl | rfl) | rfl) | rfl <;> decide

section Append

variable {chars rest more : List Char}

theorem takeWhile_append_of_ends (ends : EndsNumber more) :
    (chars ++ more).takeWhile isDigit = chars.takeWhile isDigit := by
  have none : more.takeWhile isDigit = [] := by
    cases more with
    | nil => rfl
    | cons char more => exact List.takeWhile_cons_of_neg (by simp [(ends char rfl).1])
  rw [List.takeWhile_append, none, List.append_nil]
  split
  · rename_i all
    exact ((List.takeWhile_prefix isDigit).eq_of_length all).symm
  · rfl

theorem dropWhile_append_of_ends (ends : EndsNumber more) :
    (chars ++ more).dropWhile isDigit = chars.dropWhile isDigit ++ more := by
  have kept := congrArg List.length (@takeWhile_append_of_ends chars more ends)
  have split := @List.takeWhile_append_dropWhile _ isDigit (chars ++ more)
  rw [takeWhile_append_of_ends ends] at split
  refine List.append_cancel_left (split.trans ?_)
  rw [← List.append_assoc, List.takeWhile_append_dropWhile]

theorem readFraction_append (ends : EndsNumber more) {fraction : Option (List Char)}
    (read : readFraction chars = some (fraction, rest)) :
    readFraction (chars ++ more) = some (fraction, rest ++ more) := by
  cases chars with
  | nil =>
    obtain ⟨rfl, rfl⟩ := Prod.mk.inj (Option.some.inj read)
    cases more with
    | nil => rfl
    | cons char more =>
      have noPoint := (ends char rfl).2.1
      rw [List.nil_append, readFraction]
      rintro tail ⟨⟩
      exact noPoint rfl
  | cons char tail =>
    by_cases point : char = '.'
    · subst point
      simp only [readFraction, List.cons_append, takeWhile_append_of_ends ends,
        dropWhile_append_of_ends ends] at read ⊢
      split at read
      · cases read
      · rename_i some
        obtain ⟨rfl, rfl⟩ := Prod.mk.inj (Option.some.inj read)
        rw [if_neg some]
    · have skipped : ∀ tail, readFraction (char :: tail) = some (none, char :: tail) := by
        intro tail
        rw [readFraction]
        rintro _ ⟨⟩
        exact point rfl
      rw [skipped] at read
      obtain ⟨rfl, rfl⟩ := Prod.mk.inj (Option.some.inj read)
      exact skipped _

theorem readSign_append (some : chars ≠ []) :
    readSign (chars ++ more) = ((readSign chars).1, (readSign chars).2 ++ more) := by
  cases chars with
  | nil => exact absurd rfl some
  | cons sign digits =>
    rw [List.cons_append]
    by_cases minus : sign = '-'
    · subst minus
      rfl
    · by_cases plus : sign = '+'
      · subst plus
        rfl
      · have unsigned : ∀ digits, readSign (sign :: digits) = (false, sign :: digits) := by
          intro digits
          rw [readSign]
          · rintro _ ⟨⟩
            exact minus rfl
          · rintro _ ⟨⟩
            exact plus rfl
        rw [unsigned, unsigned]
        rfl

theorem readExponent_append (ends : EndsNumber more) {exponent : Option Int}
    (read : readExponent chars = some (exponent, rest)) :
    readExponent (chars ++ more) = some (exponent, rest ++ more) := by
  cases chars with
  | nil =>
    obtain ⟨rfl, rfl⟩ := Prod.mk.inj (Option.some.inj read)
    cases more with
    | nil => rfl
    | cons char more =>
      obtain ⟨-, -, lower, upper⟩ := ends char rfl
      exact if_neg (by simp [lower, upper])
  | cons mark tail =>
    rw [List.cons_append]
    simp only [readExponent] at read ⊢
    split at read
    · rename_i isMark
      rw [if_pos isMark]
      cases tail with
      | nil => cases read
      | cons first digits =>
        rw [readSign_append (List.cons_ne_nil _ _)]
        simp only [takeWhile_append_of_ends ends, dropWhile_append_of_ends ends]
        split at read
        · cases read
        · rename_i some
          obtain ⟨rfl, rfl⟩ := Prod.mk.inj (Option.some.inj read)
          exact if_neg some
    · rename_i noMark
      obtain ⟨rfl, rfl⟩ := Prod.mk.inj (Option.some.inj read)
      exact if_neg noMark

/-- A number reads the same before a text that ends it. -/
theorem readNumber_append (ends : EndsNumber more) {negative : Bool} {value : Json}
    (read : readNumber negative chars = some (value, rest)) :
    readNumber negative (chars ++ more) = some (value, rest ++ more) := by
  unfold readNumber at read ⊢
  simp only [takeWhile_append_of_ends ends, dropWhile_append_of_ends ends] at read ⊢
  split at read
  · cases read
  · rename_i whole
    rw [if_neg whole]
    simp only [Option.bind_eq_bind, Option.bind_eq_some_iff] at read ⊢
    obtain ⟨⟨fraction, behind⟩, isFraction, ⟨exponent, beyond⟩, isExponent, number, isNumber,
      same⟩ := read
    exact ⟨_, readFraction_append ends isFraction, _, readExponent_append ends isExponent, number,
      isNumber, by simpa using same⟩

end Append

theorem isDigit_of_readNumber {char : Char} {digits rest : List Char} {value : Json}
    (read : readNumber false (char :: digits) = some (value, rest)) : isDigit char = true := by
  cases digit : isDigit char with
  | true => rfl
  | false =>
    have none : (char :: digits).takeWhile isDigit = [] :=
      List.takeWhile_cons_of_neg (by simp [digit])
    rw [readNumber, none] at read
    cases read

theorem digitsValue_toDigits (number : Nat) : digitsValue (Nat.toDigits 10 number) = number := by
  have same : ∀ (digits : List Char) (start : Nat),
      digits.foldl (fun number digit => number * 10 + (digit.toNat - 48)) start =
        Nat.ofDigitChars 10 digits start := by
    intro digits
    induction digits with
    | nil => exact fun _ => rfl
    | cons digit rest ih =>
      intro start
      rw [List.foldl_cons, ih, Nat.ofDigitChars_cons, Nat.mul_comm]
      rfl
  rw [digitsValue, same, Nat.ofDigitChars_ten_toDigits]

theorem eq_zero_of_head_toDigits {number : Nat}
    (zero : (Nat.toDigits 10 number).head? = some '0') : number = 0 := by
  induction number using Nat.strongRecOn with
  | ind number ih =>
    rw [Nat.toDigits_eq_if (by decide)] at zero
    split at zero
    · rename_i small
      have only : ∀ digit < 10, digit.digitChar = '0' → digit = 0 := by decide
      exact only number small (Option.some.inj zero)
    · rename_i large
      rw [List.head?_append_of_ne_nil _ Nat.toDigits_ne_nil] at zero
      have none := ih (number / 10) (by omega) zero
      omega

theorem readNumber_toDigits {negative : Bool} {number : Nat} {value : Json}
    (same : numberOf negative (Nat.toDigits 10 number) none none = some value) :
    readNumber negative (Nat.toDigits 10 number) = some (value, []) := by
  have digits : ∀ char ∈ Nat.toDigits 10 number, isDigit char = true :=
    fun char inside => Nat.isDigit_of_mem_toDigits (by decide) (by decide) inside
  have single : (Nat.toDigits 10 number).head? = some '0' →
      (Nat.toDigits 10 number).length = 1 := by
    intro zero
    rw [eq_zero_of_head_toDigits zero]
    rfl
  have taken : (Nat.toDigits 10 number).takeWhile isDigit = Nat.toDigits 10 number :=
    List.takeWhile_eq_self_iff.mpr digits
  have left : (Nat.toDigits 10 number).dropWhile isDigit = [] :=
    List.dropWhile_eq_nil_iff.mpr digits
  have written : (Nat.toDigits 10 number).isEmpty = false :=
    List.isEmpty_eq_false_iff.mpr Nat.toDigits_ne_nil
  simpa [readNumber, taken, left, written, readFraction, readExponent, same] using single

/-! Quoted texts. -/

theorem hexNumber?_control : ∀ code < 32,
    hexNumber? ['0', '0', hexDigit (code / 16), hexDigit (code % 16)] = some code := by
  decide

theorem readText_plain (fuel : Nat) (read : List Char) {char : Char} (rest : List Char)
    (noQuote : char ≠ '"') (noBackslash : char ≠ '\\') (printed : 32 ≤ char.toNat) :
    readText (fuel + 1) read (char :: rest) = readText fuel (char :: read) rest := by
  rw [readText]
  · exact if_neg (Nat.not_lt.mpr printed)
  · exact fun same => absurd same noQuote
  · exact fun _ same => absurd same noBackslash
  · exact fun _ _ same => absurd same noBackslash

theorem readText_control (fuel : Nat) (read : List Char) {char : Char} (rest : List Char)
    (control : char.toNat < 32) :
    readText (fuel + 1) read ('\\' :: 'u' :: '0' :: '0' :: hexDigit (char.toNat / 16) ::
      hexDigit (char.toNat % 16) :: rest) = readText fuel (char :: read) rest := by
  have code := hexNumber?_control char.toNat control
  have valid : charOf? char.toNat = some char := (dif_pos char.valid).trans rfl
  have found : readEscapedUnit ('0' :: '0' :: hexDigit (char.toNat / 16) ::
      hexDigit (char.toNat % 16) :: rest) = some (char, rest) := by
    rw [readEscapedUnit, readUnit, code]
    simp [valid]
    omega
  rw [readText, found]

/-- What is written for one character reads back as that character. -/
theorem readText_escape (fuel : Nat) (read : List Char) (char : Char) (rest : List Char) :
    readText (fuel + 1) read ((escape char).toList ++ rest) =
      readText fuel (char :: read) rest := by
  have named : ∀ code : Nat, char.toNat = code → char = Char.ofNat code := by
    rintro _ rfl
    exact (Char.ofNat_toNat char).symm
  unfold escape
  split_ifs with quoted backslash printed line ret tab back feed
  · rw [quoted]
    rfl
  · rw [backslash]
    rfl
  · rw [String.toList_singleton]
    exact readText_plain fuel read rest quoted backslash printed
  · rw [line]
    rfl
  · rw [ret]
    rfl
  · rw [tab]
    rfl
  · rw [named 8 back]
    rfl
  · rw [named 12 feed]
    rfl
  · rw [String.toList_append, String.toList_ofList, String.toList_ofList]
    exact readText_control fuel read rest (Nat.not_le.mp printed)

/-- The characters that are written for a text between its quotes. -/
def escaped (text : List Char) : List Char := text.flatMap fun char => (escape char).toList

theorem toList_quote (text : String) :
    (quote text).toList = '"' :: (escaped text.toList ++ ['"']) := by
  have folds : ∀ (chars : List Char) (written : String),
      (chars.foldl (fun written char => written ++ escape char) written).toList =
        written.toList ++ escaped chars := by
    intro chars
    induction chars with
    | nil => exact fun written => (List.append_nil _).symm
    | cons char rest ih =>
      intro written
      rw [List.foldl_cons, ih, String.toList_append, List.append_assoc]
      rfl
  rw [quote, String.toList_append, folds]
  rfl

theorem length_le_escaped (text : List Char) : text.length ≤ (escaped text).length := by
  have written : ∀ char, 1 ≤ (escape char).toList.length := by
    intro char
    unfold escape
    split_ifs <;> simp
  induction text with
  | nil => exact Nat.le_refl 0
  | cons char rest ih =>
    have one := written char
    rw [escaped, List.flatMap_cons, List.length_append, ← escaped, List.length_cons]
    omega

theorem readText_escaped (text : List Char) {fuel : Nat} (enough : text.length < fuel)
    (read rest : List Char) :
    readText fuel read (escaped text ++ '"' :: rest) =
      some (String.ofList (read.reverse ++ text), rest) := by
  induction text generalizing fuel read with
  | nil =>
    cases fuel with
    | zero => cases enough
    | succ fuel =>
      rw [List.append_nil]
      rfl
  | cons char text ih =>
    cases fuel with
    | zero => cases enough
    | succ fuel =>
      rw [escaped, List.flatMap_cons, List.append_assoc, readText_escape, ← escaped,
        ih (Nat.lt_of_succ_lt_succ enough), List.reverse_cons, List.append_assoc]
      rfl

theorem readText_quoted (text : String) {fuel : Nat} (enough : text.toList.length < fuel)
    (rest : List Char) :
    readText fuel [] (escaped text.toList ++ '"' :: rest) = some (text, rest) := by
  rw [readText_escaped text.toList enough, List.reverse_nil, List.nil_append, String.ofList_toList]

end Switchyard.Json
