import Switchyard.Dict
set_option autoImplicit false

/-! Structured values. An object holds its fields in ascending key order; a whole number and a
fractional number are different values even when they are numerically equal. -/
namespace Switchyard

inductive Json where
  | null
  | bool (flag : Bool)
  | int (number : Int)
  | float (number : Float)
  | str (text : String)
  | arr (items : List Json)
  | obj (fields : List (String × Json))

namespace Json

instance : Inhabited Json := ⟨.null⟩

mutual

/-- Equality of values: fractional numbers are compared as numbers, all else exactly. -/
def beq : Json → Json → Bool
  | .null, .null => true
  | .bool left, .bool right => left == right
  | .int left, .int right => left == right
  | .float left, .float right => left == right
  | .str left, .str right => left == right
  | .arr left, .arr right => beqItems left right
  | .obj left, .obj right => beqFields left right
  | _, _ => false

def beqItems : List Json → List Json → Bool
  | [], [] => true
  | left :: lefts, right :: rights => beq left right && beqItems lefts rights
  | _, _ => false

def beqFields : List (String × Json) → List (String × Json) → Bool
  | [], [] => true
  | (leftKey, left) :: lefts, (rightKey, right) :: rights =>
    leftKey == rightKey && beq left right && beqFields lefts rights
  | _, _ => false

end

instance : BEq Json := ⟨beq⟩

def ofDict (dict : Dict Json) : Json := .obj dict.entries

/-- An object from fields in any order; a later field replaces an earlier one of the same key. -/
def object (fields : List (String × Json)) : Json := ofDict (Dict.ofList fields)

def texts (list : List String) : Json := .arr (list.map .str)

/-- A fractional number; one that is not finite has no written form and becomes null. -/
def ofFloat (number : Float) : Json := if number.isFinite then .float number else .null

def asDict? : Json → Option (Dict Json)
  | .obj fields => some (Dict.ofList fields)
  | _ => none

def asText? : Json → Option String
  | .str text => some text
  | _ => none

def asBool? : Json → Option Bool
  | .bool flag => some flag
  | _ => none

def asList? : Json → Option (List Json)
  | .arr items => some items
  | _ => none

def asFloat? : Json → Option Float
  | .int number => some (Float.ofInt number)
  | .float number => some number
  | _ => none

def asIntIn? (low high : Int) : Json → Option Int
  | .int number => if low ≤ number && number ≤ high then some number else none
  | _ => none

def smallestWhole : Int := -9223372036854775808

/-- The greatest whole number of 64 bits with a sign. -/
def largestSigned : Int := 9223372036854775807

/-- The greatest whole number of 64 bits without a sign. -/
def largestWhole : Int := 18446744073709551615

/-- A whole number that fits 64 bits without a sign. -/
def asNat? (value : Json) : Option Nat := (value.asIntIn? 0 largestWhole).map Int.toNat

def field? (value : Json) (key : String) : Option Json :=
  match value with
  | .obj fields => Dict.lookup key fields
  | _ => none

end Json

end Switchyard
