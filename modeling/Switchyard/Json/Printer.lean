import Switchyard.Json.Basic
import Switchyard.Decimal.Text
set_option autoImplicit false

/-! The compact text of a value and its size in bytes. Main statement: `Json.utf8ByteSize_compact`,
the size is the length of the text. -/
namespace Switchyard.Json

def hexDigit (digit : Nat) : Char :=
  if digit < 10 then Char.ofNat (48 + digit) else Char.ofNat (87 + digit)

/-- Only the quote, the backslash and the control characters are escaped. -/
def escape (char : Char) : String :=
  if char = '"' then "\\\""
  else if char = '\\' then "\\\\"
  else if 32 ≤ char.toNat then String.singleton char
  else if char = '\n' then "\\n"
  else if char = '\r' then "\\r"
  else if char = '\t' then "\\t"
  else if char.toNat = 8 then "\\b"
  else if char.toNat = 12 then "\\f"
  else "\\u00" ++ String.ofList [hexDigit (char.toNat / 16), hexDigit (char.toNat % 16)]

def quote (text : String) : String :=
  text.toList.foldl (fun written char => written ++ escape char) "\"" ++ "\""

mutual

def compact : Json → String
  | .null => "null"
  | .bool flag => if flag then "true" else "false"
  | .int number => toString number
  | .float number => Decimal.Layout.data.write number
  | .str text => quote text
  | .arr items => "[" ++ compactItems items ++ "]"
  | .obj fields => "\x7b" ++ compactFields fields ++ "\x7d"

def compactItems : List Json → String
  | [] => ""
  | item :: rest => compact item ++ compactMoreItems rest

/-- Every item after the first, each behind its comma. -/
def compactMoreItems : List Json → String
  | [] => ""
  | item :: rest => "," ++ compact item ++ compactMoreItems rest

def compactFields : List (String × Json) → String
  | [] => ""
  | (key, value) :: rest => quote key ++ ":" ++ compact value ++ compactMoreFields rest

def compactMoreFields : List (String × Json) → String
  | [] => ""
  | (key, value) :: rest =>
    "," ++ (quote key ++ ":" ++ compact value) ++ compactMoreFields rest

end

/-- A new line with two blanks for each level. -/
def newLine (level : Nat) : String := "\n" ++ String.ofList (List.replicate (2 * level) ' ')

mutual

/-- The text of a value with every item and every field on a line of its own. -/
def indented (level : Nat) : Json → String
  | .arr (item :: rest) =>
    "[" ++ newLine (level + 1) ++ indented (level + 1) item ++
      indentedMoreItems (level + 1) rest ++ newLine level ++ "]"
  | .obj ((key, value) :: rest) =>
    "\x7b" ++ newLine (level + 1) ++ quote key ++ ": " ++ indented (level + 1) value ++
      indentedMoreFields (level + 1) rest ++ newLine level ++ "\x7d"
  | value => compact value

def indentedMoreItems (level : Nat) : List Json → String
  | [] => ""
  | item :: rest => "," ++ newLine level ++ indented level item ++ indentedMoreItems level rest

def indentedMoreFields (level : Nat) : List (String × Json) → String
  | [] => ""
  | (key, value) :: rest =>
    "," ++ newLine level ++ quote key ++ ": " ++ indented level value ++
      indentedMoreFields level rest

end

def quotedSize (text : String) : Nat :=
  text.toList.foldl (fun size char => size + (escape char).utf8ByteSize) 1 + 1

mutual

/-- The bytes of the compact text, counted without writing it. -/
def size : Json → Nat
  | .null => 4
  | .bool flag => if flag then 4 else 5
  | .int number => (toString number).utf8ByteSize
  | .float number => (Decimal.Layout.data.write number).utf8ByteSize
  | .str text => quotedSize text
  | .arr items => 1 + sizeItems items + 1
  | .obj fields => 1 + sizeFields fields + 1

def sizeItems : List Json → Nat
  | [] => 0
  | item :: rest => size item + sizeMoreItems rest

def sizeMoreItems : List Json → Nat
  | [] => 0
  | item :: rest => 1 + size item + sizeMoreItems rest

def sizeFields : List (String × Json) → Nat
  | [] => 0
  | (key, value) :: rest => quotedSize key + 1 + size value + sizeMoreFields rest

def sizeMoreFields : List (String × Json) → Nat
  | [] => 0
  | (key, value) :: rest => 1 + (quotedSize key + 1 + size value) + sizeMoreFields rest

end

theorem utf8ByteSize_foldl_escape (chars : List Char) (written : String) :
    (chars.foldl (fun text char => text ++ escape char) written).utf8ByteSize =
      chars.foldl (fun size char => size + (escape char).utf8ByteSize) written.utf8ByteSize := by
  induction chars generalizing written with
  | nil => rfl
  | cons char rest ih => simp only [List.foldl_cons, ih, String.utf8ByteSize_append]

theorem utf8ByteSize_quote (text : String) : (quote text).utf8ByteSize = quotedSize text := by
  rw [quote, String.utf8ByteSize_append, utf8ByteSize_foldl_escape]
  rfl

mutual

/-- The size counts the bytes of the compact text. -/
theorem utf8ByteSize_compact (value : Json) : (compact value).utf8ByteSize = size value := by
  cases value with
  | null => rfl
  | bool flag => cases flag <;> rfl
  | int number => rfl
  | float number => rfl
  | str text => exact utf8ByteSize_quote text
  | arr items =>
    simp only [compact, size, String.utf8ByteSize_append, utf8ByteSize_compactItems items]
    rfl
  | obj fields =>
    simp only [compact, size, String.utf8ByteSize_append, utf8ByteSize_compactFields fields]
    rfl

theorem utf8ByteSize_compactItems (items : List Json) :
    (compactItems items).utf8ByteSize = sizeItems items := by
  cases items with
  | nil => rfl
  | cons item rest =>
    simp only [compactItems, sizeItems, String.utf8ByteSize_append,
      utf8ByteSize_compact item, utf8ByteSize_compactMoreItems rest]

theorem utf8ByteSize_compactMoreItems (items : List Json) :
    (compactMoreItems items).utf8ByteSize = sizeMoreItems items := by
  cases items with
  | nil => rfl
  | cons item rest =>
    simp only [compactMoreItems, sizeMoreItems, String.utf8ByteSize_append,
      utf8ByteSize_compact item, utf8ByteSize_compactMoreItems rest]
    rfl

theorem utf8ByteSize_compactFields (fields : List (String × Json)) :
    (compactFields fields).utf8ByteSize = sizeFields fields := by
  cases fields with
  | nil => rfl
  | cons field rest =>
    obtain ⟨key, value⟩ := field
    simp only [compactFields, sizeFields, String.utf8ByteSize_append, utf8ByteSize_quote,
      utf8ByteSize_compact value, utf8ByteSize_compactMoreFields rest]
    rfl

theorem utf8ByteSize_compactMoreFields (fields : List (String × Json)) :
    (compactMoreFields fields).utf8ByteSize = sizeMoreFields fields := by
  cases fields with
  | nil => rfl
  | cons field rest =>
    obtain ⟨key, value⟩ := field
    simp only [compactMoreFields, sizeMoreFields, String.utf8ByteSize_append, utf8ByteSize_quote,
      utf8ByteSize_compact value, utf8ByteSize_compactMoreFields rest]
    rfl

end

end Switchyard.Json
