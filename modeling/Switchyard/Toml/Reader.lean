import Switchyard.Toml.Moment
import Switchyard.Toml.Number
import Switchyard.Toml.Table
import Switchyard.Toml.Text
set_option autoImplicit false

/-! Reading a TOML document: keys, values, statements, and the document as one structured value. -/
namespace Switchyard.Toml

/-- Values nest at most this deep, and a dotted key has at most so many parts. -/
def depthLimit : Nat := 79

def isBare (char : Char) : Bool :=
  ('a' ≤ char && char ≤ 'z') || ('A' ≤ char && char ≤ 'Z') || ('0' ≤ char && char ≤ '9') ||
    char = '-' || char = '_'

/-- One part of a key, quoted or bare. -/
def readPart (chars : List Char) : Option (String × List Char) :=
  match chars with
  | '"' :: _ => readQuoted? .basic chars
  | '\x27' :: _ => readQuoted? .literal chars
  | _ =>
    let bare := chars.takeWhile isBare
    if bare.isEmpty then none else some (String.ofList bare, chars.dropWhile isBare)

/-- A key of at most so many parts with dots between them. -/
def readKey : Nat → List Char → Option (Key × List Char)
  | 0, _ => none
  | room + 1, chars => do
    let (part, rest) ← readPart (skipBlanks chars)
    match skipBlanks rest with
    | '.' :: more =>
      let (key, after) ← readKey room more
      return (⟨part :: key.parents, key.last⟩, after)
    | after => return (⟨[], part⟩, after)

def readScalar (chars : List Char) : Option (Json × List Char) :=
  match chars with
  | '"' :: _ => (readText? .basic chars).map fun (text, rest) => (.str text, rest)
  | '\x27' :: _ => (readText? .literal chars).map fun (text, rest) => (.str text, rest)
  | 't' :: 'r' :: 'u' :: 'e' :: rest => some (.bool true, rest)
  | 'f' :: 'a' :: 'l' :: 's' :: 'e' :: rest => some (.bool false, rest)
  | _ =>
    ((readMoment? chars).map fun (moment, rest) => (moment.toJson, rest)).or (readNumber? chars)

section Parts

variable (readItem : List Char → Option (Json × List Char))

/-- The items of a list up to its closing bracket; a comma may follow the last. -/
def readItems : Nat → List Char → Option (List Json × List Char)
  | 0, _ => none
  | fuel + 1, chars =>
    match skipGaps false chars with
    | ']' :: after => some ([], after)
    | start => do
      let (first, rest) ← readItem start
      match skipGaps false rest with
      | ']' :: after => return ([first], after)
      | ',' :: more =>
        let (others, after) ← readItems fuel more
        return (first :: others, after)
      | _ => none

def readAssignment (chars : List Char) : Option ((Key × Json) × List Char) := do
  let (key, rest) ← readKey depthLimit chars
  match rest with
  | '=' :: more =>
    let (value, after) ← readItem (skipBlanks more)
    return ((key, value), after)
  | _ => none

/-- The assignments of a table on one line up to its closing brace. -/
def readAssignments : Nat → List Char → Option (List (Key × Json) × List Char)
  | 0, _ => none
  | fuel + 1, chars => do
    let (first, rest) ← readAssignment readItem chars
    match skipBlanks rest with
    | '\x7d' :: after => return ([first], after)
    | ',' :: more =>
      let (others, after) ← readAssignments fuel more
      return (first :: others, after)
    | _ => none

/-- A table on one line, after its opening brace. -/
def readInline (chars : List Char) : Option (Json × List Char) :=
  match skipBlanks chars with
  | '\x7d' :: after => some (.obj [], after)
  | _ => do
    let (assignments, after) ← readAssignments readItem (chars.length + 1) chars
    return (.obj (fields (← Entries.ofAssignments assignments)), after)

end Parts

/-- A value; `room` says how much deeper it may nest. -/
def readValue : Nat → List Char → Option (Json × List Char)
  | 0, chars => readScalar chars
  | room + 1, chars =>
    match chars with
    | '[' :: rest =>
      (readItems (readValue room) (rest.length + 1) rest).map fun (items, after) =>
        (.arr items, after)
    | '\x7b' :: rest => readInline (readValue room) rest
    | _ => readScalar chars

def readStatement (chars : List Char) : Option (Statement × List Char) := do
  match chars with
  | '[' :: '[' :: rest =>
    let (key, rest) ← readKey depthLimit rest
    match rest with
    | ']' :: ']' :: after => return (.element key, ← afterLine? after)
    | _ => none
  | '[' :: rest =>
    let (key, rest) ← readKey depthLimit rest
    match rest with
    | ']' :: after => return (.table key, ← afterLine? after)
    | _ => none
  | _ =>
    let ((key, value), rest) ← readAssignment (readValue depthLimit) chars
    return (.assignment key value, ← afterLine? rest)

/-- All statements; the fuel bounds their number. -/
def readStatements : Nat → List Char → Option (List Statement)
  | 0, _ => none
  | fuel + 1, chars =>
    match skipGaps false chars with
    | [] => some []
    | start => do
      let (statement, rest) ← readStatement start
      return statement :: (← readStatements fuel rest)

/-- The mark that may stand before a document and is no part of it. -/
def byteOrderMark : Char := '\ufeff'

/-- The object that a document describes. -/
def ofText? (text : String) : Option Json := do
  let chars := match text.toList with
    | first :: rest => if first = byteOrderMark then rest else first :: rest
    | [] => []
  documentOf? (← readStatements (chars.length + 1) chars)

end Switchyard.Toml
