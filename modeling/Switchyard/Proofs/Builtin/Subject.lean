import Switchyard.Builtin.Leaves
import Switchyard.Execution.Controller
import Switchyard.Proofs.Decimal.Size
import Switchyard.Proofs.Execution.Delivery
import Switchyard.Proofs.Message.Complexity
set_option autoImplicit false

/-! The message of a request, and what the built-in leaves know of it on the way to the response:
its text without blanks around it, whatever else the caller has put into the context. Main
statements: `trimmed_prepare`, `analysed_contextAfterLeaf`, `Analysed.subject_eq`. -/
namespace Switchyard.Builtin

open Context

/-- The content that a request is about: what an object says under that key, or an input that is no
object and not null, or else what the caller says. -/
def effectiveContent (input : Json) (caller : Dict Json) : Option Json :=
  match input with
  | .obj fields => ((Dict.ofList fields).get? Key.content).or (caller.get? Key.content)
  | .null => caller.get? Key.content
  | other => some other

/-- The text of a content without blanks around it; empty unless the content is a text that a
context keeps as it is. -/
def messageText : Option Json → String
  | some (.str text) => if (Json.str text).size ≤ sizeLimit then Message.trimmed text else ""
  | _ => ""

theorem effectiveContent_eq (input : Json) (caller : Dict Json) :
    effectiveContent input caller =
      (Dict.lookup Key.content (inputEntries input)).or (caller.get? Key.content) := by
  cases input <;> rfl

theorem asText?_stored (value : Json) :
    (stored value).asText? = if value.size ≤ sizeLimit then value.asText? else none := by
  unfold stored
  by_cases large : sizeLimit < value.size
  · rw [if_pos large, if_neg (Nat.not_le.mpr large)]
    rfl
  · rw [if_neg large, if_pos (Nat.not_lt.mp large)]

theorem trimmed_stored (content : Option Json) :
    Message.trimmed (((content.map stored).bind Json.asText?).getD "") = messageText content := by
  have nothing : Message.trimmed "" = "" := by decide
  cases content with
  | none => exact nothing
  | some value =>
    rw [Option.map_some, Option.bind_some, asText?_stored]
    cases value with
    | str text =>
      by_cases small : (Json.str text).size ≤ sizeLimit
      · simp only [messageText, if_pos small]
        rfl
      · simp only [messageText, if_neg small]
        exact nothing
    | _ => split <;> exact nothing

theorem trimmed_prepare (request : Request) :
    Message.trimmed (Controller.prepare request).content =
      messageText (effectiveContent request.input request.context) := by
  have held : (Controller.prepare request).get? Key.content =
      (effectiveContent request.input request.context).map stored := by
    rw [Controller.prepare, get?_set, if_neg (by decide), get?_ofRequest, effectiveContent_eq]
  rw [← trimmed_stored, ← held]
  rfl

theorem wordCount_messageText_lt (content : Option Json) :
    Message.wordCount (messageText content) < 2 ^ 53 := by
  have nothing : Message.wordCount "" < 2 ^ 53 := by decide
  unfold messageText
  split
  · rename_i text
    split
    · rename_i small
      have words := Message.wordCount_trimmed_le text
      unfold sizeLimit at small
      omega
    · exact nothing
  · exact nothing

/-! What is known once the message has been analysed. -/

/-- What the analysis says about a message besides its score and intents. -/
def analysedMessage (text : String) : Json :=
  Json.object [("text", .str text), ("wordCount", .int (Message.wordCount text)),
    ("isQuestion", .bool (Text.endsIn '?' text.toList))]

theorem text_analysedMessage (text : String) :
    (analysedMessage text).field? "text" = some (.str text) := by
  change (Dict.ofList _).get? "text" = _
  simp [Dict.ofList, Dict.get?_insert]

/-- The message is still there, and what the analysis has said about it. -/
structure Analysed (text : String) (context : Context) : Prop where
  content : Message.trimmed context.content = text
  message : context.get? Key.analyzedMessage = some (stored (analysedMessage text))
  score : context.get? Key.complexityScore = some (.float (Message.complexity text))

/-- The keys that tell of the message. -/
def messageKeys : List String := [Key.content, Key.analyzedMessage, Key.complexityScore]

theorem Analysed.of_keeps {text : String} {before after : Context} (analysed : Analysed text before)
    (keeps : Keeps messageKeys before after) : Analysed text after := by
  constructor
  · have content : after.content = before.content := by
      unfold Context.content text?
      rw [keeps _ (by decide)]
    rw [content, analysed.content]
  · rw [keeps _ (by decide), analysed.message]
  · rw [keeps _ (by decide), analysed.score]

/-! What the leaves leave of it. -/

theorem get?_analysis (text : String) :
    (analysis text).get? Key.content = none ∧
      (analysis text).get? Key.analyzedMessage = some (analysedMessage text) ∧
      (analysis text).get? Key.complexityScore =
        some (Json.ofFloat (Message.complexity text)) := by
  simp [analysis, Dict.ofList, Dict.get?_insert, Key.content, Key.analyzedMessage,
    Key.complexityScore, Key.intents, analysedMessage]

theorem analysed_contextAfterLeaf (action : NodeAction) {leaf : DataFlowNode}
    (undeclared : Key.content ∉ leaf.outputs) {text : String}
    (few : Message.wordCount text < 2 ^ 53) {context : Context}
    (content : Message.trimmed context.content = text) :
    Analysed text (Switchyard.contextAfterLeaf action leaf (analysis text) context) := by
  obtain ⟨noContent, message, score⟩ := get?_analysis text
  constructor
  · have keeps : Keeps [Key.content] context
        (Switchyard.contextAfterLeaf action leaf (analysis text) context) :=
      keeps_contextAfterLeaf (by decide) (by decide) action (by simpa using undeclared)
        (by simpa using noContent) context
    have same : (Switchyard.contextAfterLeaf action leaf (analysis text) context).content =
        context.content := by
      unfold Context.content text?
      rw [keeps _ (List.mem_singleton_self _)]
    rw [same, content]
  · rw [get?_contextAfterLeaf, if_neg (by decide), delivered, if_neg (by decide),
      Leaves.get?_complete, message]
    rfl
  · -- A score that were no number would be stored as nothing at all.
    have finite : Json.ofFloat (Message.complexity text) = .float (Message.complexity text) :=
      if_pos (Message.complexity_isFinite few)
    rw [get?_contextAfterLeaf, if_neg (by decide), delivered, if_neg (by decide),
      Leaves.get?_complete, score, finite]
    exact congrArg some (stored_float _)

theorem enrich_ok (context : Context) :
    ∃ outputs, enrich context = .ok outputs ∧
      ∀ key, key ≠ "enrichedContext" → outputs.get? key = none := by
  refine ⟨_, rfl, fun key different => ?_⟩
  simp [Dict.ofList, Dict.get?_insert, different.symm]

/-! What the responder makes of it. -/

/-- The text to respond to is the message, even when what the analysis has said about it was too
large to be kept. -/
theorem Analysed.subject_eq {text : String} {context : Context} (analysed : Analysed text context) :
    subject context = text := by
  unfold subject
  rw [analysed.message, Option.bind_some]
  unfold stored
  by_cases large : sizeLimit < (analysedMessage text).size
  · rw [if_pos large]
    exact analysed.content
  · rw [if_neg large, text_analysedMessage]
    rfl

theorem Analysed.isComplex_eq {text : String} {context : Context} (analysed : Analysed text context)
    (threshold : Float) :
    Condition.isComplex threshold context = decide (threshold < Message.complexity text) := by
  unfold Condition.isComplex float?
  rw [analysed.score]
  rfl

theorem Analysed.respond_error {context : Context} (analysed : Analysed "" context) :
    respond context = .error (.failed "nothing to respond to") := by
  unfold respond
  rw [analysed.subject_eq]
  rfl

end Switchyard.Builtin
