import Switchyard.Text.CharWidth
import Switchyard.Text.Emoji
set_option autoImplicit false

/-! Letters that merge with the letters before them, so that together they take fewer columns than
apart. A text is read from its end: what has been read may be the end of a ligature, and the letter
before it says how many columns it adds and what it is the end of in turn. -/
namespace Switchyard.Text

/-- The end of a ligature; `joined` once a joiner stands before it. -/
inductive Ligature where
  | alef
  | lamed (joined : Bool)
  | khmerLetter
  | ya (joined : Bool)
  | yaAfterVowel
  | tifinaghLetter (joined : Bool)
  | tifinaghLetterAfterMark
  | lisuTone
  | orkhonI (joined : Bool)
  | vowelE
  | vowelAi
  deriving Repr, DecidableEq

namespace Ligature

def alefRanges : List (Nat × Nat) := [
  (0x622, 0x623), (0x625, 0x625), (0x627, 0x627), (0x671, 0x673), (0x675, 0x675), (0x773, 0x774),
  (0x870, 0x882)]

def lamRanges : List (Nat × Nat) := [
  (0x644, 0x644), (0x6B5, 0x6B8), (0x76A, 0x76A), (0x8A6, 0x8A6), (0x8C7, 0x8C7)]

/-- Khmer letters that have a form below the letter before them. -/
def khmerLetterRanges : List (Nat × Nat) := [
  (0x1780, 0x1782), (0x1784, 0x1787), (0x1789, 0x178C), (0x178E, 0x1793), (0x1795, 0x1798),
  (0x179B, 0x179D), (0x17A0, 0x17A0), (0x17A2, 0x17A2), (0x17A7, 0x17A7), (0x17AB, 0x17AC),
  (0x17AF, 0x17AF)]

def tifinaghLetterRanges : List (Nat × Nat) := [(0x2D31, 0x2D65), (0x2D6F, 0x2D6F)]

/-- Marks that show nothing and do not keep the letters around them apart. -/
def unseenRanges : List (Nat × Nat) := [
  (0x34F, 0x34F), (0x17B4, 0x17B5), (0x180B, 0x180D), (0x180F, 0x180F), (0x200D, 0x200D),
  (0xFE00, 0xFE0F), (0xE0100, 0xE01EF)]

/-- The ligature that a character may end. -/
def ofChar? (char : Char) : Option Ligature :=
  let code := char.toNat
  if covered alefRanges code then some .alef
  else if code = 0x5DC then some (.lamed false)
  else if covered khmerLetterRanges code then some .khmerLetter
  else if code = 0x1A10 then some (.ya false)
  else if covered tifinaghLetterRanges code then some (.tifinaghLetter false)
  else if code = 0xA4FC || code = 0xA4FD then some .lisuTone
  else if code = 0x10C03 then some (.orkhonI false)
  else if code = 0x16D67 then some .vowelE
  else if code = 0x16D68 then some .vowelAi
  else none

/-- The mark may stand inside the ligature. -/
def passes : Ligature → Char → Bool
  | .vowelE, _ | .vowelAi, _ => false
  | .alef, char => isJoiningMark char
  | _, char => covered unseenRanges char.toNat

/-- The ligature after a mark that may stand inside it. -/
def past (ligature : Ligature) (char : Char) : Ligature :=
  if char = zeroWidthJoiner then
    match ligature with
    | .lamed _ => .lamed true
    | .ya _ => .ya true
    | .tifinaghLetter _ => .tifinaghLetter true
    | .orkhonI _ => .orkhonI true
    | other => other
  else ligature

/-- The columns that a letter adds to the ligature after it, which may be less than none, and the
ligature that it may end itself; none when the two do not merge. -/
def merge? (ligature : Ligature) (char : Char) : Option (Int × Option Ligature) :=
  let code := char.toNat
  match ligature with
  | .alef => if covered lamRanges code then some (0, none) else none
  | .lamed joined => if joined && code = 0x5D0 then some (0, none) else none
  | .khmerLetter => if code = 0x17D2 then some (-1, none) else none
  | .ya joined => if joined && code = 0x1A17 then some (0, some .yaAfterVowel) else none
  | .yaAfterVowel => if code = 0x1A15 then some (0, none) else none
  | .tifinaghLetter joined =>
    if code = 0x2D7F then some (1, some .tifinaghLetterAfterMark)
    else if joined && covered tifinaghLetterRanges code then some (0, none)
    else none
  | .tifinaghLetterAfterMark =>
    if covered tifinaghLetterRanges code then some (-1, none) else none
  | .lisuTone => if 0xA4F8 ≤ code && code ≤ 0xA4FB then some (0, none) else none
  | .orkhonI joined => if joined && code = 0x10C32 then some (0, none) else none
  | .vowelE =>
    if code = 0x16D63 || code = 0x16D69 then some (0, none)
    else if code = 0x16D67 then some (0, some .vowelAi)
    else if code = 0x16D68 then some (1, some .vowelE)
    else none
  | .vowelAi => if code = 0x16D63 then some (0, none) else none

end Ligature

end Switchyard.Text
