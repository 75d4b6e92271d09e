import Switchyard.Text.Blank
import Switchyard.Text.Alphanumeric
import Switchyard.Text.LowerCase
set_option autoImplicit false

/-! What a message looks like from the outside: how complex it seems and what it asks for. -/
namespace Switchyard.Message

def isQuestion (message : String) : Bool := Text.endsInQuestionMark message.toList

def wordCount (message : String) : Nat := (Text.words message.toList).length

def trimmed (message : String) : String := String.ofList (Text.trim message.toList)

/-- The score of a message without any signal, and the signal that takes it half way to one. -/
def complexityFloor : Float := 0.6
def halfSignal : Float := 24.0

/-- A question counts as much as this many words. -/
def questionSignal : Float := 6.0

/-- Grows with the number of words, from the floor towards one. -/
def complexity (message : String) : Float :=
  let signal := Float.ofNat (wordCount message) +
    (if isQuestion message then questionSignal else 0.0)
  complexityFloor + (1.0 - complexityFloor) * (signal / (signal + halfSignal))

def greetings : List String := ["hello", "hi", "hey", "greetings", "morning"]

/-- What a message asks for, in a fixed order; a message that asks for nothing is a statement. -/
def intents (message : String) : List String :=
  let lower := Text.lower message.toList
  let found :=
    (if greetings.contains (String.ofList (Text.firstWord lower)) then ["greeting"] else []) ++
    (if Text.endsInQuestionMark lower then ["question"] else []) ++
    (if Text.hasInfix "help".toList lower then ["help_request"] else [])
  if found.isEmpty then ["statement"] else found

end Switchyard.Message
