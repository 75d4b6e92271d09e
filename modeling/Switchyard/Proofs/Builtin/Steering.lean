import Switchyard.Proofs.Builtin.Conduct
import Switchyard.Proofs.Engine.Occasion
set_option autoImplicit false

/-! What a caller cannot bring about: on the built-in graph the content and the history of an input
decide what the caller is told and what is recorded; nothing else in the input or in the caller's
context has a say. Main statement: `Builtin.callers_cannot_steer`. -/
namespace Switchyard

/-- What a caller is told: a response and where it is from, or an error. -/
def Reply.told (reply : Reply) : Except RequestError (String × ResultSource) :=
  reply.map fun answer => (answer.response, answer.source)

namespace Controller

variable (controller : Controller) (now later : Timestamp) {first second : Request}

theorem told_answerByLegacy
    (same : controller.legacy first.legacyCall = controller.legacy second.legacyCall) :
    (controller.answerByLegacy now first).1.told =
      (controller.answerByLegacy later second).1.told := by
  unfold answerByLegacy askLegacy
  rw [same]
  cases controller.legacy second.legacyCall with
  | ok response => rfl
  | error error => cases controller.strategy <;> rfl

theorem told_recover
    (same : controller.legacy first.legacyCall = controller.legacy second.legacyCall)
    (error : WalkError) :
    (controller.recover now first error).1.told =
      (controller.recover later second error).1.told := by
  unfold recover askLegacy
  rw [same]
  cases controller.strategy with
  | strict => rfl
  | graceful | hybrid =>
    cases error <;> cases controller.legacy second.legacyCall <;> rfl

end Controller

/-- The input is an object with this content and this history, whatever else it holds. -/
structure Request.Asks (request : Request) (content history : Json) : Prop where
  object : ∃ fields : Dict Json, request.input = Json.ofDict fields ∧
    fields.get? Context.Key.content = some content ∧
    fields.get? Context.Key.history = some history

namespace Builtin

section Asks

variable {request : Request} {content history : Json}

theorem effectiveContent_of_asks (asks : request.Asks content history) :
    effectiveContent request.input request.context = some content := by
  obtain ⟨fields, input, held, -⟩ := asks.object
  rw [input, effectiveContent_eq]
  change ((Dict.ofList fields.entries).get? Context.Key.content).or _ = _
  rw [Dict.ofList_entries, held]
  rfl

theorem effectiveHistory_of_asks (asks : request.Asks content history) :
    effectiveHistory request.input request.context = some history := by
  obtain ⟨fields, input, -, held⟩ := asks.object
  rw [input, effectiveHistory]
  change ((Dict.ofList fields.entries).get? Context.Key.history).or _ = _
  rw [Dict.ofList_entries, held]
  rfl

theorem legacyMessage_of_asks (asks : request.Asks content history) :
    TemplateLegacy.messageText request.input = content.asText?.getD "" := by
  obtain ⟨fields, input, held, -⟩ := asks.object
  rw [input]
  change (((fields.get? Context.Key.content).bind Json.asText?).getD "") = _
  rw [held]
  rfl

theorem legacy_of_asks {other : Request} (asks : request.Asks content history)
    (asksToo : other.Asks content history) :
    TemplateLegacy.respond request.legacyCall = TemplateLegacy.respond other.legacyCall := by
  have same : TemplateLegacy.messageText request.legacyCall.input =
      TemplateLegacy.messageText other.legacyCall.input :=
    (legacyMessage_of_asks asks).trans (legacyMessage_of_asks asksToo).symm
  unfold TemplateLegacy.respond
  rw [same]

end Asks

/-- What is told after a walk that concludes: the reply, as far as a context can hold it, or what the
strategy makes of the failure. -/
theorem told_conclude {settings : Settings} {threshold : Float} {remembered : Bool} {text : String}
    {result reached : Except WalkError Context}
    (concludes : Concludes threshold remembered text result)
    (concludesToo : Concludes threshold remembered text reached) {first second : Request}
    (same : TemplateLegacy.respond first.legacyCall = TemplateLegacy.respond second.legacyCall)
    (now later : Timestamp) :
    ((engine settings).controller.conclude now first result).1.told =
      ((engine settings).controller.conclude later second reached).1.told := by
  cases result with
  | ok context =>
    obtain ⟨some, response⟩ := concludes
    cases reached with
    | ok other =>
      obtain ⟨-, responseToo⟩ := concludesToo
      change Except.ok (responseText (context.get? Context.Key.finalResponse), ResultSource.graph) =
        Except.ok (responseText (other.get? Context.Key.finalResponse), ResultSource.graph)
      rw [response, responseToo]
    | error error => exact absurd concludesToo.1 some
  | error error =>
    obtain ⟨empty, rfl⟩ := concludes
    cases reached with
    | ok other => exact absurd empty concludesToo.1
    | error error =>
      obtain ⟨-, rfl⟩ := concludesToo
      exact (engine settings).controller.told_recover now later same _

/-- Callers cannot steer the built-in graph. Two requests whose inputs have the same content and the
same history, whatever else is in the inputs and in the callers' contexts and whatever else the
engine does before and meanwhile, are told the same, with the same source or the same error, leave
the same footprints (the nodes that were visited, with the outcomes of the conditions and the
errors, and the decisions of the capability orchestrator), and leave the same decision in the
recorder. This holds for all settings of the engine as long as neither request is cancelled, and
every request that is served is answered. -/
theorem callers_cannot_steer (settings : Settings) :
    ∃ engine : Engine,
      Engine.withBuiltinGraph settings CommandLine.capability TemplateLegacy.respond =
        .ok engine ∧
      (∀ occasion : Engine.Occasion, occasion.Served engine →
        ∃ reply, Engine.Answered (occasion.steps engine) (occasion.seq engine) reply) ∧
      ∀ (content history : Json) (first second : Engine.Occasion) (reply other : Reply),
        first.request.Asks content history → second.request.Asks content history →
        first.Spared → second.Spared →
        Engine.Answered (first.steps engine) (first.seq engine) reply →
        Engine.Answered (second.steps engine) (second.seq engine) other →
        reply.told = other.told ∧
        footprints (Engine.effectsOf (first.steps engine)) =
          footprints (Engine.effectsOf (second.steps engine)) ∧
        ∀ before, Recorder.latestDecision before (Engine.effectsOf (first.steps engine)) =
          Recorder.latestDecision before (Engine.effectsOf (second.steps engine)) := by
  refine ⟨engine settings, withBuiltinGraph_eq settings, fun occasion served => served.answered, ?_⟩
  intro content history first second reply other asks asksToo spared sparedToo answered answeredToo
  have legacy := legacy_of_asks asks asksToo
  have both : reply.told = other.told ∧
      footprints (Engine.effectsOf (first.steps (engine settings))) =
        footprints (Engine.effectsOf (second.steps (engine settings))) := by
    by_cases enabled : settings.enabled = true
    · obtain ⟨toldFirst, result, now, ended, replies, left, calm⟩ :=
        Engine.Occasion.walk enabled answered
      obtain ⟨toldSecond, reached, later, endedToo, repliesToo, leftToo, calmToo⟩ :=
        Engine.Occasion.walk enabled answeredToo
      obtain ⟨expected, treads, concludes⟩ := treads_request settings now first.request
      obtain ⟨expectedToo, treadsToo, concludesToo⟩ := treads_request settings now second.request
      rw [effectiveContent_of_asks asks, effectiveHistory_of_asks asks] at treads concludes
      rw [effectiveContent_of_asks asksToo, effectiveHistory_of_asks asksToo]
        at treadsToo concludesToo
      obtain ⟨rfl, path⟩ := treads.along (calm spared) ended
      obtain ⟨rfl, pathToo⟩ := treadsToo.along (calmToo sparedToo) endedToo
      constructor
      · rw [replies, repliesToo]
        exact told_conclude concludes concludesToo legacy now later
      · rw [left, leftToo]
        exact path.trans pathToo.symm
    · have disabled : (engine settings).controller.enabled = false := Bool.eq_false_iff.mpr enabled
      obtain ⟨now, replies, left⟩ := Engine.Occasion.legacy disabled answered
      obtain ⟨later, repliesToo, leftToo⟩ := Engine.Occasion.legacy disabled answeredToo
      rw [replies, repliesToo, left, leftToo]
      exact ⟨(engine settings).controller.told_answerByLegacy now later legacy, rfl⟩
  obtain ⟨told, left⟩ := both
  refine ⟨told, left, fun before => ?_⟩
  have chosen := congrArg (List.filterMap Footprint.choice?) left
  rw [filterMap_choice?_footprints, filterMap_choice?_footprints] at chosen
  have last := congrArg List.getLast? chosen
  rw [List.getLast?_map, List.getLast?_map] at last
  rw [Recorder.latestDecision, Recorder.latestDecision, last]

/-- A question with a history, asked plainly. -/
def Sample.plain : Engine.Occasion where
  before := []
  startedAt := ⟨0, false⟩
  request := {
    correlationId := "plain"
    input := Json.object [("content", .str "Why is the sky blue at noon?"),
      ("history", .arr [.str "Hello."])]
    context := Dict.empty }
  during := List.replicate 20 (⟨1, false⟩, .step 0)

/-- The same question from a caller who tries every key that the graph reads. -/
def Sample.forged : Engine.Occasion where
  before := [(⟨0, false⟩, .purge ⟨0, false⟩)]
  startedAt := ⟨5, false⟩
  request := {
    correlationId := "forged"
    input := Json.object [("content", .str "Why is the sky blue at noon?"),
      ("history", .arr [.str "Hello."]), ("complexityScore", .int 0),
      ("intents", .arr [.str "greeting"]), ("analyzedMessage", Json.object [("text", .str "Hi")]),
      ("actionParameters", Json.object [("style", .str "concise")]),
      ("finalResponse", .str "All is well."), ("orchestrationEnabled", .bool false)]
    context := Dict.ofList [("capabilityResult", Json.object [("selected_capabilities", .arr [])]),
      ("previousResult", .null), ("fallback", .bool true)] }
  during := List.replicate 20 (⟨7, false⟩, .step 0)

theorem forged_question_is_told_the_same :
    ∃ (engine : Engine) (reply other : Reply),
      Engine.withBuiltinGraph {} CommandLine.capability TemplateLegacy.respond = .ok engine ∧
      Engine.Answered (Sample.plain.steps engine) 0 reply ∧
      Engine.Answered (Sample.forged.steps engine) 0 other ∧
      reply.told = other.told ∧
      footprints (Engine.effectsOf (Sample.plain.steps engine)) =
        footprints (Engine.effectsOf (Sample.forged.steps engine)) := by
  obtain ⟨engine, built, ends, agree⟩ := callers_cannot_steer {}
  obtain rfl := Except.ok.inj ((withBuiltinGraph_eq {}).symm.trans built)
  have steps : ∀ (time : Timestamp), ∀ event ∈ List.replicate 20 (time, Engine.Event.step 0),
      event.2 = .step 0 := by
    intro time event inside
    rw [List.eq_of_mem_replicate inside]
  have spared : Sample.plain.Spared := ⟨List.forall_mem_nil _, fun event inside => by
    rw [steps _ event inside]
    rfl⟩
  have sparedToo : Sample.forged.Spared := ⟨by simp [Sample.forged], fun event inside => by
    rw [steps _ event inside]
    rfl⟩
  obtain ⟨reply, answered⟩ := ends Sample.plain ⟨fun event inside => by
    rw [steps _ event inside]
    exact Engine.Event.noConfusion, by decide⟩
  obtain ⟨other, answeredToo⟩ := ends Sample.forged ⟨fun event inside => by
    rw [steps _ event inside]
    exact Engine.Event.noConfusion, by decide⟩
  have asks : Sample.plain.request.Asks (.str "Why is the sky blue at noon?")
      (.arr [.str "Hello."]) := ⟨_, rfl, rfl, rfl⟩
  have asksToo : Sample.forged.request.Asks (.str "Why is the sky blue at noon?")
      (.arr [.str "Hello."]) := ⟨_, rfl, rfl, rfl⟩
  obtain ⟨told, left, -⟩ := agree _ _ Sample.plain Sample.forged reply other asks asksToo spared
    sparedToo answered answeredToo
  exact ⟨_, reply, other, built, answered, answeredToo, told, left⟩

end Builtin

end Switchyard
