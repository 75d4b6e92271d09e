set_option autoImplicit false

/-! Classes of characters, and the one that divides words: the property White_Space, trimming, and
the words between blanks. -/
namespace Switchyard.Text

/-- The code point lies in one of the ranges, which ascend; the search stops at the first range
beyond it. -/
def covered : List (Nat × Nat) → Nat → Bool
  | [], _ => false
  | (low, high) :: rest, code =>
    if code < low then false else if code ≤ high then true else covered rest code

def isBlank (char : Char) : Bool :=
  let code := char.toNat
  (9 ≤ code && code ≤ 13) || code = 0x20 || code = 0x85 || code = 0xA0 || code = 0x1680 ||
    (0x2000 ≤ code && code ≤ 0x200A) || code = 0x2028 || code = 0x2029 || code = 0x202F ||
    code = 0x205F || code = 0x3000

def trimStart (chars : List Char) : List Char := chars.dropWhile isBlank

def trimEnd (chars : List Char) : List Char := (trimStart chars.reverse).reverse

def trim (chars : List Char) : List Char := trimEnd (trimStart chars)

/-- One character in front of a text that is split already: `.1` is the word it joins. -/
def prependChar (char : Char) (split : List Char × List (List Char)) :
    List Char × List (List Char) :=
  if isBlank char then ([], if split.1.isEmpty then split.2 else split.1 :: split.2)
  else (char :: split.1, split.2)

def words (chars : List Char) : List (List Char) :=
  let split := chars.foldr prependChar ([], [])
  if split.1.isEmpty then split.2 else split.1 :: split.2

def endsIn (mark : Char) (chars : List Char) : Bool := chars.getLast? == some mark

/-- The last character other than blanks is a question mark. -/
def endsInQuestionMark (chars : List Char) : Bool := endsIn '?' (trimEnd chars)

/-- The pattern stands somewhere in the text. -/
def hasInfix (pattern : List Char) : List Char → Bool
  | [] => pattern.isEmpty
  | char :: rest => pattern.isPrefixOf (char :: rest) || hasInfix pattern rest

end Switchyard.Text
