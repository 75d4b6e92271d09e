import Switchyard.Capability.Heuristic
import Switchyard.Proofs.Builtin.Subject
import Switchyard.Proofs.Message.Question
set_option autoImplicit false

/-! What is said to a message, and which capabilities are chosen for it. Both depend on the message
and on whether there is a history, and on nothing else in the context. Main statements:
`Informed.decide_eq`, `Informed.respond_eq`. -/
namespace Switchyard.Builtin

open Context

/-- The history of a request: what an object says under that key, or else what the caller says. -/
def effectiveHistory (input : Json) (caller : Dict Json) : Option Json :=
  (Dict.lookup Key.history (inputEntries input)).or (caller.get? Key.history)

/-- There is a history: a list that is not empty and that a context keeps as it is. -/
def remembers : Option Json → Bool
  | some (.arr turns) => (Json.arr turns).size ≤ sizeLimit && !turns.isEmpty
  | _ => false

/-! What is to be said. -/

/-- What is said to a message before any capabilities are mentioned. -/
def plainReply (text : String) : String :=
  if Message.isQuestion text then "Here is what I can tell you about \"" ++ text ++ "\"."
  else if Message.greets text then "Hello! How can I help you today?"
  else "Understood: " ++ text

/-- The capabilities that are chosen for a demanding message. -/
def capabilities (remembered : Bool) (text : String) : List String :=
  (if Message.isQuestion text then ["reasoning"] else []) ++
    (if remembered then ["memory"] else []) ++ ["deep_analysis"]

def selection (remembered : Bool) (text : String) : CapabilityDecision where
  selected := capabilities remembered text
  confidence := Heuristic.confidence (capabilities remembered text).length
  quality := 0.9

/-- What is said to a message; to a demanding one also which capabilities were used. -/
def reply (threshold : Float) (remembered : Bool) (text : String) : String :=
  plainReply text ++
    if threshold < Message.complexity text then
      " (using " ++ ", ".intercalate (capabilities remembered text) ++ ")"
    else ""

/-! What is known once the message has been analysed, its intents and its history included. -/

structure Informed (remembered : Bool) (text : String) (context : Context) : Prop
    extends Analysed text context where
  intents : context.get? Key.intents = some (Json.texts (Message.intents text))
  history : (context.items Key.history).isEmpty = !remembered

/-- The keys that tell of the message, of what it asks for and of what was said before. -/
def subjectKeys : List String := messageKeys ++ [Key.intents, Key.history]

section Informed

variable {remembered : Bool} {text : String} {before context : Context} {action : NodeAction}

theorem Informed.of_keeps (informed : Informed remembered text before)
    (keeps : Keeps subjectKeys before context) : Informed remembered text context where
  toAnalysed := informed.toAnalysed.of_keeps fun key told =>
    keeps key (List.mem_append_left _ told)
  intents := (keeps _ (by decide)).trans informed.intents
  history := by
    have same : context.get? Key.history = before.get? Key.history := keeps _ (by decide)
    rw [← informed.history, items, items, same]

theorem Informed.withParameters (informed : Informed remembered text context) :
    Informed remembered text (withParameters action context) :=
  informed.of_keeps (keeps_withParameters (by decide) action context)

theorem stored_intents (text : String) :
    stored (Json.texts (Message.intents text)) = Json.texts (Message.intents text) := by
  have short : ∀ greets asks pleads,
      (Json.texts (Message.intentsOf greets asks pleads)).size ≤ sizeLimit := by decide +kernel
  rw [Message.intents_eq]
  exact if_neg (Nat.not_lt.mpr (short _ _ _))

theorem get?_analysis_others (text : String) :
    (analysis text).get? Key.intents = some (Json.texts (Message.intents text)) ∧
      (analysis text).get? Key.history = none := by
  simp [analysis, Dict.ofList, Dict.get?_insert, Key.analyzedMessage, Key.complexityScore,
    Key.intents, Key.history]

/-- After the analysis all is known, whatever the context held before under other keys. -/
theorem informed_contextAfterLeaf (action : NodeAction) {leaf : DataFlowNode}
    (noContent : Key.content ∉ leaf.outputs) (noHistory : Key.history ∉ leaf.outputs)
    (few : Message.wordCount text < 2 ^ 53) (content : Message.trimmed context.content = text)
    (history : (context.items Key.history).isEmpty = !remembered) :
    Informed remembered text (contextAfterLeaf action leaf (analysis text) context) := by
  obtain ⟨intents, silent⟩ := get?_analysis_others text
  refine ⟨analysed_contextAfterLeaf action noContent few content, ?_, ?_⟩
  · rw [get?_contextAfterLeaf, if_neg (by decide), delivered, if_neg (by decide),
      Leaves.get?_complete, intents]
    exact congrArg some (stored_intents text)
  · have keeps : Keeps [Key.history] context
        (contextAfterLeaf action leaf (analysis text) context) :=
      keeps_contextAfterLeaf (by decide) (by decide) action (by simpa using noHistory)
        (by simpa using silent) context
    have same := keeps _ (List.mem_singleton_self _)
    rw [← history, items, items, same]

theorem history_prepare (request : Request) :
    ((Controller.prepare request).items Key.history).isEmpty =
      !remembers (effectiveHistory request.input request.context) := by
  have held : (Controller.prepare request).get? Key.history =
      (effectiveHistory request.input request.context).map stored := by
    rw [Controller.prepare, get?_set, if_neg (by decide), get?_ofRequest, effectiveHistory]
  rw [items, held]
  cases effectiveHistory request.input request.context with
  | none => rfl
  | some value =>
    rw [Option.map_some, Option.bind_some, stored]
    by_cases large : sizeLimit < value.size
    · have tooLarge : ¬ value.size ≤ sizeLimit := Nat.not_le.mpr large
      rw [if_pos large]
      cases value with
      | arr turns => simp [remembers, tooLarge, truncationMarker, Json.asList?]
      | _ => rfl
    · have fits : value.size ≤ sizeLimit := Nat.not_lt.mp large
      rw [if_neg large]
      cases value with
      | arr turns => simp [remembers, fits, Json.asList?]
      | _ => rfl

theorem filterMap_asText?_texts (list : List String) :
    (list.map Json.str).filterMap Json.asText? = list := by
  rw [List.filterMap_map]
  exact List.filterMap_some

theorem contains_question_intents (text : String) :
    (Message.intents text).contains "question" = Message.isQuestion text := by
  rw [Bool.eq_iff_iff, List.contains_iff_mem]
  exact Message.question_mem_intents text

theorem contains_greeting_intents (text : String) :
    (Message.intents text).contains "greeting" = Message.greets text := by
  rw [Bool.eq_iff_iff, List.contains_iff_mem]
  exact Message.greeting_mem_intents text

/-! The capabilities that are chosen. -/

theorem Informed.decide_eq (informed : Informed remembered text context) {node : DecisionNode}
    (hints : (capabilityRequest node action context).loadHints =
      { qualityMode := some "enhanced", maxLatencyMs := some 5000, budget := none }) :
    Heuristic.decide (capabilityRequest node action context) =
      .ok (selection remembered text) := by
  have wanted : (capabilityRequest node action context).intents = Message.intents text := by
    change (context.items Key.intents).filterMap Json.asText? = _
    rw [items, informed.intents]
    exact filterMap_asText?_texts _
  have turns : (capabilityRequest node action context).history.isEmpty = !remembered :=
    informed.history
  have selected : Heuristic.select (capabilityRequest node action context) =
      capabilities remembered text := by
    unfold Heuristic.select Heuristic.isEnhanced capabilities
    rw [hints, wanted, contains_question_intents, turns]
    cases Message.isQuestion text <;> cases remembered <;> rfl
  unfold Heuristic.decide Heuristic.isEnhanced
  rw [selected, hints]
  rfl

theorem stored_selection (remembered : Bool) (text : String) :
    stored (selection remembered text).toJson = (selection remembered text).toJson := by
  have short : ∀ asks remembered : Bool,
      (let chosen := (if asks then ["reasoning"] else []) ++
        (if remembered then ["memory"] else []) ++ ["deep_analysis"]
      (CapabilityDecision.mk chosen (Heuristic.confidence chosen.length) 0.9).toJson.size) ≤
        sizeLimit := by decide +kernel
  exact if_neg (Nat.not_lt.mpr (short (Message.isQuestion text) remembered))

/-! The response. -/

theorem Informed.hasIntent_eq (informed : Informed remembered text context) (name : String) :
    hasIntent context name = (Message.intents text).contains name := by
  have listed : ∀ list : List String,
      (list.map Json.str).any (fun intent => intent.asText? == some name) =
        list.contains name := by
    intro list
    induction list with
    | nil => rfl
    | cons first rest ih =>
      rw [List.map_cons, List.any_cons, ih, List.contains_cons, Bool.beq_comm]
      rfl
  rw [hasIntent, items, informed.intents]
  exact listed _

theorem Informed.plainResponse_eq (informed : Informed remembered text context) :
    plainResponse context text = plainReply text := by
  rw [plainResponse, informed.hasIntent_eq, informed.hasIntent_eq, contains_question_intents,
    contains_greeting_intents, plainReply]

/-- The outputs of the responder with this to say. -/
def said (response : String) : Dict Json := Dict.ofList [(Key.finalResponse, .str response)]

theorem Informed.respond_eq (informed : Informed remembered text context) (some : text ≠ "") :
    respond context = .ok (said (plainReply text ++ capabilityNote context)) := by
  have full : ¬ text.isEmpty = true := fun empty => some (String.isEmpty_iff.mp empty)
  unfold respond
  dsimp only
  rw [informed.subject_eq, if_neg full, informed.plainResponse_eq]
  rfl

theorem capabilityNote_of_concise (concise : isDetailed context = false) :
    capabilityNote context = "" := by
  rw [capabilityNote, concise]
  rfl

theorem capabilityNote_of_detailed (detailed : isDetailed context = true)
    (chosen : context.get? Key.capabilityResult = some (selection remembered text).toJson) :
    capabilityNote context =
      " (using " ++ ", ".intercalate (capabilities remembered text) ++ ")" := by
  have listed : (selection remembered text).toJson.field? "selected_capabilities" =
      some (Json.texts (capabilities remembered text)) := by
    change (Dict.ofList _).get? "selected_capabilities" = _
    simp [Dict.ofList, Dict.get?_insert, selection]
  have selected : selectedCapabilities context = capabilities remembered text := by
    rw [selectedCapabilities, chosen, Option.bind_some, listed]
    exact filterMap_asText?_texts _
  have nonempty : (capabilities remembered text).isEmpty = false := by
    simp [capabilities]
  rw [capabilityNote, detailed, selected, nonempty]
  rfl

end Informed

end Switchyard.Builtin
