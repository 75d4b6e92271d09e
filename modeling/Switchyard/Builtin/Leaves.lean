import Switchyard.Leaf
import Switchyard.Message
import Switchyard.Outcome
set_option autoImplicit false

/-! The leaves that come with the built-in graph: they analyse the message, gather what surrounds
it, and write the response. -/
namespace Switchyard.Builtin

def inputAnalysis : String := "input-analysis"
def contextEnrichment : String := "context-enrichment"
def responseGenerator : String := "response-generator"
def fallbackResponse : String := "fallback-response"

def immediate (answer : Context → Except LeafError (Dict Json)) : LeafHandler :=
  fun _ context => { outcome := answer context }

/-- What is known about a message that has no blanks around it. -/
def analysis (text : String) : Dict Json :=
  Dict.ofList [
    (Context.Key.analyzedMessage, Json.object [("text", .str text),
      ("wordCount", .int (Message.wordCount text)),
      ("isQuestion", .bool (Text.endsIn '?' text.toList))]),
    (Context.Key.complexityScore, Json.ofFloat (Message.complexity text)),
    (Context.Key.intents, Json.texts (Message.intents text))]

def analyse (context : Context) : Except LeafError (Dict Json) :=
  .ok (analysis (Message.trimmed context.content))

def enrich (context : Context) : Except LeafError (Dict Json) :=
  .ok (Dict.ofList [("enrichedContext", Json.object [
    ("historyTurns", .int (context.items Context.Key.history).length),
    ("userId", (context.get? Context.Key.userId).getD .null),
    ("channelId", (context.get? Context.Key.channelId).getD .null)])])

/-- The text to respond to: the analysed one if there is one. -/
def subject (context : Context) : String :=
  match ((context.get? Context.Key.analyzedMessage).bind (·.field? "text")).bind Json.asText? with
  | some text => text
  | none => Message.trimmed context.content

def hasIntent (context : Context) (name : String) : Bool :=
  (context.items Context.Key.intents).any fun intent => intent.asText? == some name

/-- The response before anything is said about capabilities. -/
def plainResponse (context : Context) (text : String) : String :=
  if hasIntent context "question" then "Here is what I can tell you about \"" ++ text ++ "\"."
  else if hasIntent context "greeting" then "Hello! How can I help you today?"
  else "Understood: " ++ text

def isDetailed (context : Context) : Bool :=
  ((context.get? Context.Key.actionParameters).bind (·.field? "style")).bind Json.asText? ==
    some "detailed"

def selectedCapabilities (context : Context) : List String :=
  match ((context.get? Context.Key.capabilityResult).bind
      (·.field? "selected_capabilities")).bind Json.asList? with
  | some items => items.filterMap Json.asText?
  | none => []

/-- A detailed response names the capabilities it used. -/
def capabilityNote (context : Context) : String :=
  let selected := selectedCapabilities context
  if isDetailed context && !selected.isEmpty then
    " (using " ++ ", ".intercalate selected ++ ")"
  else ""

def respond (context : Context) : Except LeafError (Dict Json) :=
  let text := subject context
  if text.isEmpty then .error (.failed "nothing to respond to")
  else .ok (Dict.ofList [(Context.Key.finalResponse,
    .str (plainResponse context text ++ capabilityNote context))])

def apologise (_ : Context) : Except LeafError (Dict Json) :=
  .ok (Dict.ofList [(Context.Key.finalResponse, .str apologyText)])

def handlers : Dict LeafHandler :=
  Dict.ofList [(inputAnalysis, immediate analyse), (contextEnrichment, immediate enrich),
    (responseGenerator, immediate respond), (fallbackResponse, immediate apologise)]

end Switchyard.Builtin
