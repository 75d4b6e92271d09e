import Switchyard.Text.Ligature
set_option autoImplicit false

/-! How many columns a text takes on a terminal: the sum over its characters, except that a whole
picture takes two however many characters spell it, and that letters merge into ligatures. A text is
read from its end, since what a character adds depends on what follows it. -/
namespace Switchyard.Text

/-- What has been read of the picture that a joiner attaches to the picture after it. -/
inductive JoinedPart where
  | nothing
  /-- The frame of a key. -/
  | frame
  /-- One half of a flag. -/
  | half
  /-- Whole flags. -/
  | flags
  /-- Whole flags, and a half before them. -/
  | flagsAndHalf
  /-- The end of a region's name and so many letters before it. -/
  | letters (count : Nat)
  /-- The end of a region's name and so many digits in front of what was read of it. -/
  | digits (count : Nat)
  deriving Repr, DecidableEq

/-- How a text begins, as far as the character before it depends on it. -/
inductive Onset where
  | plain
  | ligature (letters : Ligature)
  | picture
  | tone
  | half
  /-- Several halves of flags. -/
  | halves
  | joined (part : JoinedPart)
  deriving Repr, DecidableEq

/-- What follows a character: perhaps a selector, and then the beginning of a text. -/
structure Following where
  form : Option Form
  onset : Onset
  deriving Repr, DecidableEq

namespace Onset

/-- How a text begins that starts with this character and merges with nothing after it. -/
def ofChar (char : Char) : Onset :=
  if isTone char then .tone
  else if isFlagHalf char then .half
  else if isPicture char then .picture
  else match Ligature.ofChar? char with
    | some letters => .ligature letters
    | none => .plain

def ofLigature? : Option Ligature → Onset
  | some letters => .ligature letters
  | none => .plain

/-- What remains of the beginning of a text behind a selector. -/
def behind (onset : Onset) (form : Form) (selector : Char) : Onset :=
  match onset, form with
  | .ligature letters, _ => if letters.passes selector then .ligature letters else .plain
  | .joined .nothing, .picture => .joined .nothing
  | .joined .frame, .picture => .joined .frame
  | _, _ => .plain

/-- What a character can merge with when the selector behind it does not apply to it. -/
def afterIdleSelector : Onset → Onset
  | .ligature letters => .ligature letters
  | _ => .plain

/-- A joiner attaches the picture before it to this beginning. -/
def attaches : Onset → Bool
  | .picture | .tone | .halves | .joined .flags | .joined .flagsAndHalf => true
  | _ => false

end Onset

namespace JoinedPart

/-- The columns of a character that continues a joined picture, and how the text then begins. -/
def extend? (part : JoinedPart) (char : Char) : Option (Int × Onset) :=
  match part with
  | .nothing =>
    if char = keycap then some (0, .joined .frame)
    else if isFlagHalf char then some (1, .joined .half)
    else if isTone char then some (0, .tone)
    else if char = tagEnd then some (0, .joined (.letters 0))
    else if isPicture char then some (0, .picture)
    else none
  | .frame => none
  | .half | .flagsAndHalf => if isFlagHalf char then some (-1, .joined .flags) else none
  | .flags => if isFlagHalf char then some (3, .joined .flagsAndHalf) else none
  | .letters count =>
    if isTagLetter char && count < 6 then some (0, .joined (.letters (count + 1)))
    else if isTagDigit char && count < 5 then some (0, .joined (.digits 1))
    else if char = tagFlag && 3 ≤ count then some (0, .picture)
    else none
  | .digits count =>
    if isTagDigit char && count < 3 then some (0, .joined (.digits (count + 1)))
    else if char = tagFlag && count = 3 then some (0, .picture)
    else none

end JoinedPart

/-- The columns of a character that merges with the beginning of the text after it, and how the text
then begins. -/
def merge? (onset : Onset) (char : Char) : Option (Int × Onset) :=
  if onset.attaches && char = zeroWidthJoiner then some (0, .joined .nothing)
  else match onset with
    | .plain | .picture => none
    | .ligature letters =>
      if letters.passes char then some (0, .ligature (letters.past char))
      else (letters.merge? char).map fun (columns, next) => (columns, .ofLigature? next)
    | .tone => if takesTone char then some (0, .picture) else none
    | .half | .halves => if isFlagHalf char then some (1, .halves) else none
    | .joined part => part.extend? char

/-- The columns of a character before a text, and how the text then begins. -/
def columnsBefore (following : Following) (char : Char) : Int × Following :=
  if following.form = some .picture && hasTwoForms char then
    (match following.onset with
      | .joined _ => 0
      | _ => 2, ⟨none, .picture⟩)
  else if char.toNat ≤ 0xA0 then (1, ⟨none, .plain⟩)
  else
    let onset := if following.form.isSome then following.onset.afterIdleSelector
      else following.onset
    match selectedForm? char with
    | some form => (0, ⟨some form, onset.behind form char⟩)
    | none =>
      if following.form = some .text && narrowsAsText char then (1, ⟨none, .plain⟩)
      else match merge? onset char with
        | some (columns, onset) => (columns, ⟨none, onset⟩)
        | none => (charWidth char, ⟨none, .ofChar char⟩)

/-- The columns of a text and how it begins. -/
def measure (chars : List Char) : Int × Following :=
  chars.foldr (fun char (columns, following) =>
    let (more, next) := columnsBefore following char
    (columns + more, next)) (0, ⟨none, .plain⟩)

def width (text : String) : Nat := (measure text.toList).1.toNat

end Switchyard.Text
