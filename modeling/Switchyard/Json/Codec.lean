import Switchyard.Json.Basic
set_option autoImplicit false

/-! Reading typed data out of structured values. A required field must be there; an optional field
may be missing or null; a field with a default may be missing but not null. Unknown fields are
ignored. -/
namespace Switchyard.Json

variable {α : Type}

def text? : Json → Option String := asText?

def uint64? (value : Json) : Option UInt64 := value.asNat?.map UInt64.ofNat

def int32? (value : Json) : Option Int32 :=
  (value.asIntIn? (-2147483648) 2147483647).map Int32.ofInt

/-- A list whose items all decode. -/
def list? (decode : Json → Option α) (value : Json) : Option (List α) :=
  value.asList?.bind fun items => items.mapM decode

def dict? (decode : Json → Option α) (value : Json) : Option (Dict α) :=
  match value with
  | .obj fields =>
    (fields.mapM fun field => (decode field.2).map fun item => (field.1, item)).map Dict.ofList
  | _ => none

/-- One of finitely many names. -/
def name? (all : List α) (name : α → String) (value : Json) : Option α :=
  value.asText?.bind fun text => all.find? fun item => name item == text

def isObject : Json → Bool
  | .obj _ => true
  | _ => false

def required (value : Json) (key : String) (decode : Json → Option α) : Option α :=
  (value.field? key).bind decode

def withDefault (value : Json) (key : String) (default : α) (decode : Json → Option α) :
    Option α :=
  match value.field? key with
  | none => some default
  | some found => decode found

def optional (value : Json) (key : String) (decode : Json → Option α) : Option (Option α) :=
  match value.field? key with
  | none => some none
  | some .null => some none
  | some found => (decode found).map some

/-- The field of an optional value: left out when there is none. -/
def fieldIfSome (key : String) (encode : α → Json) : Option α → List (String × Json)
  | none => []
  | some item => [(key, encode item)]

/-- A value without numbers that have no written form: each of them becomes null. -/
def finite : Json → Json
  | .float number => ofFloat number
  | .arr items => .arr (finiteItems items)
  | .obj fields => .obj (finiteFields fields)
  | value => value
where
  finiteItems : List Json → List Json
    | [] => []
    | item :: rest => finite item :: finiteItems rest
  finiteFields : List (String × Json) → List (String × Json)
    | [] => []
    | (key, value) :: rest => (key, finite value) :: finiteFields rest

def ofUInt64 (number : UInt64) : Json := .int number.toNat

end Switchyard.Json
