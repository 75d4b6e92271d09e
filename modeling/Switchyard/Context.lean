import Switchyard.Json.Codec
import Switchyard.Json.Printer
set_option autoImplicit false

/-! The context of a request: values under keys, each of a limited size. A value whose compact text
is longer than the limit is replaced by a marker that tells its size. -/
namespace Switchyard

structure Context where
  correlationId : String
  values : Dict Json := Dict.empty

namespace Context

/-! Keys with a meaning of their own. -/

namespace Key

def content : String := "content"
def userId : String := "userId"
def channelId : String := "channelId"
def history : String := "history"
def intents : String := "intents"
def orchestrationEnabled : String := "orchestrationEnabled"
def analyzedMessage : String := "analyzedMessage"
def complexityScore : String := "complexityScore"
def capabilityResult : String := "capabilityResult"
def previousResult : String := "previousResult"
def finalResponse : String := "finalResponse"
def fallback : String := "fallback"
def actionParameters : String := "actionParameters"

end Key

/-- The largest compact text, in bytes, of a value that is kept as it is. -/
def sizeLimit : Nat := 1048576

/-- What stands in for a value that is too large. -/
def truncationMarker (size : Nat) : Json :=
  .obj [("_original_size", .int size), ("_truncated", .bool true)]

def stored (value : Json) : Json :=
  if sizeLimit < value.size then truncationMarker value.size else value

def new (correlationId : String) : Context := ⟨correlationId, Dict.empty⟩

def get? (context : Context) (key : String) : Option Json := context.values.get? key

def contains (context : Context) (key : String) : Bool := context.values.contains key

def text? (context : Context) (key : String) : Option String := (context.get? key).bind Json.asText?

def float? (context : Context) (key : String) : Option Float :=
  (context.get? key).bind Json.asFloat?

def bool? (context : Context) (key : String) : Option Bool := (context.get? key).bind Json.asBool?

/-- The items of a list; no items if there is anything else. -/
def items (context : Context) (key : String) : List Json :=
  ((context.get? key).bind Json.asList?).getD []

/-- The message, empty when it is not a text. -/
def content (context : Context) : String := (context.text? Key.content).getD ""

def set (context : Context) (key : String) (value : Json) : Context :=
  { context with values := context.values.insert key (stored value) }

def setAll (context : Context) (entries : List (String × Json)) : Context :=
  entries.foldl (fun context entry => context.set entry.1 entry.2) context

def merge (context : Context) (outputs : Dict Json) : Context := context.setAll outputs.entries

def remove (context : Context) (key : String) : Context :=
  { context with values := context.values.erase key }

/-- What an input says about a request: an object its fields, anything else but null the
message. -/
def inputEntries : Json → List (String × Json)
  | .obj fields => (Dict.ofList fields).entries
  | .null => []
  | other => [(Key.content, other)]

/-- The caller's entries for keys that a context does not hold yet. -/
def missingEntries (context : Context) (caller : Dict Json) : List (String × Json) :=
  caller.entries.filter fun entry => !context.contains entry.1

def ofInput (correlationId : String) (input : Json) : Context :=
  (new correlationId).setAll (inputEntries input)

/-- The context a request starts with: the input wins over what the caller adds. -/
def ofRequest (correlationId : String) (input : Json) (caller : Dict Json) : Context :=
  let context := ofInput correlationId input
  context.setAll (context.missingEntries caller)

/-- The values that are new or differ from those of an earlier context. -/
def changesSince (context before : Context) : Dict Json :=
  context.values.filter fun key value =>
    match before.get? key with
    | some old => !(old == value)
    | none => true

/-- The bytes of all values written as one object. -/
def serializedSize (context : Context) : Nat := (Json.ofDict context.values).size

instance : BEq Context :=
  ⟨fun left right => left.correlationId == right.correlationId && left.values == right.values⟩

def toJson (context : Context) : Json :=
  Json.object [("correlation_id", .str context.correlationId),
    ("values", Json.ofDict context.values)]

def ofJson? (value : Json) : Option Context := do
  guard value.isObject
  return {
    correlationId := ← value.required "correlation_id" Json.text?
    values := ← value.required "values" Json.asDict? }

theorem get?_set (context : Context) (key other : String) (value : Json) :
    (context.set key value).get? other =
      if key = other then some (stored value) else context.get? other :=
  Dict.get?_insert context.values key other (stored value)

theorem get?_remove (context : Context) (key other : String) :
    (context.remove key).get? other = if key = other then none else context.get? other :=
  Dict.get?_erase context.values key other

end Context

end Switchyard
