import Switchyard.Json.Reader
set_option autoImplicit false

/-! The characters of a TOML document: blanks, comments, line breaks, and the four kinds of quoted
text. Every reader returns what it found and the characters after it. -/
namespace Switchyard.Toml

def isBlank (char : Char) : Bool := char = ' ' || char = '\t'

def skipBlanks (chars : List Char) : List Char := chars.dropWhile isBlank

/-- Characters that may stand in comments and texts: all but the controls, of which a tab is
allowed. -/
def isPlain (char : Char) : Bool := char = '\t' || (32 ≤ char.toNat && char.toNat ≠ 127)

/-- What follows a line break. A carriage return breaks a line only before a line feed. -/
def afterBreak? : List Char → Option (List Char)
  | '\n' :: rest => some rest
  | '\r' :: '\n' :: rest => some rest
  | _ => none

def skipComment : List Char → List Char
  | '#' :: rest => rest.dropWhile isPlain
  | chars => chars

/-- What follows the end of a line, before which blanks and a comment may stand. -/
def afterLine? (chars : List Char) : Option (List Char) :=
  match skipComment (skipBlanks chars) with
  | [] => some []
  | rest => afterBreak? rest

/-- Skips blanks, line breaks and comments; `inComment` says that a comment is being read. -/
def skipGaps (inComment : Bool) : List Char → List Char
  | [] => []
  | '\n' :: rest => skipGaps false rest
  | '\r' :: '\n' :: rest => skipGaps false rest
  | char :: rest =>
    if inComment then
      if isPlain char then skipGaps true rest else char :: rest
    else if char = '#' then skipGaps true rest
    else if isBlank char then skipGaps false rest
    else char :: rest

def skipLines : List Char → List Char
  | ' ' :: rest => skipLines rest
  | '\t' :: rest => skipLines rest
  | '\n' :: rest => skipLines rest
  | '\r' :: '\n' :: rest => skipLines rest
  | chars => chars

/-- What follows a backslash at the end of a line: the break and all layout after it vanish. -/
def afterContinuation? (chars : List Char) : Option (List Char) :=
  (afterBreak? (skipBlanks chars)).map skipLines

/-- The character with a code of exactly so many hexadecimal digits. -/
def readCode (width : Nat) (chars : List Char) : Option (Char × List Char) := do
  let digits := chars.take width
  guard (digits.length = width)
  return (← Json.charOf? (← Json.hexNumber? digits), chars.drop width)

def readEscape : List Char → Option (Char × List Char)
  | 'b' :: rest => some (Char.ofNat 8, rest)
  | 't' :: rest => some ('\t', rest)
  | 'n' :: rest => some ('\n', rest)
  | 'f' :: rest => some (Char.ofNat 12, rest)
  | 'r' :: rest => some ('\r', rest)
  | '"' :: rest => some ('"', rest)
  | '\\' :: rest => some ('\\', rest)
  | 'u' :: rest => readCode 4 rest
  | 'U' :: rest => readCode 8 rest
  | _ => none

/-- A kind of quoted text, by its quotation mark. -/
inductive Quoting where
  | basic
  | literal
  deriving Repr, DecidableEq

def Quoting.mark : Quoting → Char
  | .basic => '"'
  | .literal => '\x27'

/-- The rest of a text on one line; `read` holds the characters so far, last first. -/
def readLine (quoting : Quoting) : Nat → List Char → List Char → Option (String × List Char)
  | 0, _, _ => none
  | _ + 1, _, [] => none
  | fuel + 1, read, char :: rest =>
    if char = quoting.mark then some (String.ofList read.reverse, rest)
    else if char = '\\' && quoting = .basic then
      match readEscape rest with
      | some (escaped, after) => readLine quoting fuel (escaped :: read) after
      | none => none
    else if isPlain char then readLine quoting fuel (char :: read) rest
    else none

/-- The rest of a text over many lines. It ends at three quotation marks, and up to two more before
those belong to it. -/
def readBlock (quoting : Quoting) : Nat → List Char → List Char → Option (String × List Char)
  | 0, _, _ => none
  | _ + 1, _, [] => none
  | fuel + 1, read, char :: rest =>
    if char = quoting.mark then
      let marks := ((char :: rest).takeWhile (· = quoting.mark)).length
      if marks < 3 then readBlock quoting fuel (char :: read) rest
      else
        let kept := min (marks - 3) 2
        some (String.ofList (List.replicate kept char ++ read).reverse,
          (char :: rest).drop (kept + 3))
    else if char = '\\' && quoting = .basic then
      match afterContinuation? rest with
      | some after => readBlock quoting fuel read after
      | none =>
        match readEscape rest with
        | some (escaped, after) => readBlock quoting fuel (escaped :: read) after
        | none => none
    else
      match afterBreak? (char :: rest) with
      | some after => readBlock quoting fuel ('\n' :: read) after
      | none => if isPlain char then readBlock quoting fuel (char :: read) rest else none

/-- A text on one line, from its quotation mark on. -/
def readQuoted? (quoting : Quoting) : List Char → Option (String × List Char)
  | [] => none
  | mark :: rest => if mark = quoting.mark then readLine quoting (rest.length + 1) [] rest else none

/-- A text of either form. A line break right after three opening marks is left out. -/
def readText? (quoting : Quoting) (chars : List Char) : Option (String × List Char) :=
  if (List.replicate 3 quoting.mark).isPrefixOf chars then
    let rest := chars.drop 3
    readBlock quoting (rest.length + 1) [] ((afterBreak? rest).getD rest)
  else readQuoted? quoting chars

end Switchyard.Toml
