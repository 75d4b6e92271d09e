import Switchyard.Proofs.Builtin.Question
import Switchyard.Proofs.Builtin.Response
import Switchyard.Proofs.Builtin.Route
set_option autoImplicit false

/-! Messages with the same words are treated alike by the built-in graph, however they are laid out.
Main statement: `Builtin.layout_is_ignored`. -/
namespace Switchyard.Builtin

open Context

theorem conduct_eq_of_words {first second : String}
    (same : Message.words first = Message.words second) (threshold : Float) (remembered : Bool) :
    conduct threshold remembered (Message.trimmed first) =
      conduct threshold remembered (Message.trimmed second) := by
  have trimmed : Message.words (Message.trimmed first) = Message.words (Message.trimmed second) := by
    rw [Message.words_trimmed, Message.words_trimmed, same]
  have empty : Message.trimmed first = "" ↔ Message.trimmed second = "" := by
    rw [Message.trimmed_eq_empty_iff, Message.trimmed_eq_empty_iff, same]
  have complains : complaints (Message.trimmed first) = complaints (Message.trimmed second) := by
    unfold complaints
    simp only [empty]
  have chosen : selection remembered (Message.trimmed first) =
      selection remembered (Message.trimmed second) := by
    rw [selection, selection, capabilities, capabilities, Message.isQuestion_eq_of_words trimmed]
  rw [conduct, conduct, lastStretch, lastStretch, Message.complexity_eq_of_words trimmed, complains,
    chosen]

section Answered

variable {settings : Settings} {occasion : Engine.Occasion} {reply : Reply} {message : String}
  (content : effectiveContent occasion.request.input occasion.request.context = some (.str message))
  (small : (Json.str message).size ≤ sizeLimit) (spared : occasion.Spared)
  (answered : Engine.Answered (occasion.steps (engine settings)) (occasion.seq (engine settings))
    reply)
include content small spared answered

/-- What a request with a message has left behind once it is answered. -/
theorem footprints_of_answered :
    footprints (Engine.effectsOf (occasion.steps (engine settings))) =
      if settings.enabled then
        conduct settings.complexityThreshold
          (remembers (effectiveHistory occasion.request.input occasion.request.context))
          (Message.trimmed message)
      else [] := by
  have text : messageText (some (.str message)) = Message.trimmed message := if_pos small
  by_cases enabled : settings.enabled = true
  · obtain ⟨told, result, now, ended, -, left, calm⟩ := Engine.Occasion.walk enabled answered
    obtain ⟨expected, treads, -⟩ := treads_request settings now occasion.request
    rw [content, text] at treads
    rw [if_pos enabled, left]
    exact (treads.along (calm spared) ended).2
  · have disabled : (engine settings).controller.enabled = false := Bool.eq_false_iff.mpr enabled
    obtain ⟨-, -, left⟩ := Engine.Occasion.legacy disabled answered
    rw [if_neg enabled, left]

theorem visits_of_answered :
    visits (Engine.effectsOf (occasion.steps (engine settings))) =
      if settings.enabled then route settings.complexityThreshold (Message.trimmed message)
      else [] := by
  rw [← filterMap_visit?_footprints, footprints_of_answered content small spared answered]
  split
  · exact filterMap_visit?_conduct _ _ _
  · rfl

end Answered

theorem route_eq_of_words {first second : String}
    (same : Message.words first = Message.words second) (threshold : Float) :
    route threshold (Message.trimmed first) = route threshold (Message.trimmed second) := by
  have conducted := conduct_eq_of_words same threshold false
  rw [← filterMap_visit?_conduct threshold false, conducted, filterMap_visit?_conduct]

/-- The layout of a message is ignored. Two messages with the same words, whatever blanks stand around
and between them, have the same score and the same intents, and the analysis finds out the same about
them: how many words they have, whether they ask a question, their score and their intents. Requests
with these messages, if both are short enough to be kept and nobody cancels them, take the same route
through the built-in graph, whatever else their inputs and their callers say and whatever the settings
are; and with a history for both or for neither they also leave the same verdicts and choices. -/
theorem layout_is_ignored {first second : String}
    (same : Message.words first = Message.words second) :
    Message.complexity first = Message.complexity second ∧
    Message.intents first = Message.intents second ∧
    (∀ here there : Context, here.get? Key.content = some (.str first) →
      there.get? Key.content = some (.str second) →
      ∃ outputs others, Reports here outputs ∧ Reports there others ∧
        Finds first outputs ∧ Finds first others) ∧
    ∀ settings : Settings, ∃ engine : Engine,
      Engine.withBuiltinGraph settings CommandLine.capability TemplateLegacy.respond =
        .ok engine ∧
      ∀ (here there : Engine.Occasion) (reply other : Reply),
        effectiveContent here.request.input here.request.context = some (.str first) →
        effectiveContent there.request.input there.request.context = some (.str second) →
        (Json.str first).size ≤ sizeLimit → (Json.str second).size ≤ sizeLimit →
        here.Spared → there.Spared →
        Engine.Answered (here.steps engine) (here.seq engine) reply →
        Engine.Answered (there.steps engine) (there.seq engine) other →
        visits (Engine.effectsOf (here.steps engine)) =
          visits (Engine.effectsOf (there.steps engine)) ∧
        (remembers (effectiveHistory here.request.input here.request.context) =
            remembers (effectiveHistory there.request.input there.request.context) →
          footprints (Engine.effectsOf (here.steps engine)) =
            footprints (Engine.effectsOf (there.steps engine))) := by
  refine ⟨Message.complexity_eq_of_words same, Message.intents_eq_of_words same, ?_, ?_⟩
  · intro here there told toldThere
    refine ⟨_, _, reports_analysis told, reports_analysis toldThere, finds_analysis_trimmed first, ?_⟩
    exact (finds_analysis_trimmed second).of_words same.symm
  · intro settings
    refine ⟨engine settings, withBuiltinGraph_eq settings, ?_⟩
    intro here there reply other content contentToo small smallToo spared sparedToo answered
      answeredToo
    constructor
    · rw [visits_of_answered content small spared answered,
        visits_of_answered contentToo smallToo sparedToo answeredToo, route_eq_of_words same]
    · intro alike
      rw [footprints_of_answered content small spared answered,
        footprints_of_answered contentToo smallToo sparedToo answeredToo, alike,
        conduct_eq_of_words same]

/-- A question written over several lines, and the same question in one line. -/
def Sample.spread : String := "\tWhy  is\n\nthe sky\u00A0blue \u2003at ΝΟΟΣ?\r\n"
def Sample.compact : String := "Why is the sky blue at ΝΟΟΣ?"

theorem spread_question_takes_same_route :
    Message.words Sample.spread = Message.words Sample.compact ∧
    Message.intents Sample.spread = Message.intents Sample.compact ∧
    ∃ (engine : Engine) (answer other : OrchestrationResult),
      Engine.withBuiltinGraph {} CommandLine.capability TemplateLegacy.respond = .ok engine ∧
      let here := Sample.alone ⟨"spread", .str Sample.spread, Dict.empty⟩
      let there := Sample.alone ⟨"compact", .str Sample.compact, Dict.empty⟩
      Engine.Answered (here.steps engine) 0 (.ok answer) ∧
      Engine.Answered (there.steps engine) 0 (.ok other) ∧
      visits (Engine.effectsOf (here.steps engine)) =
        visits (Engine.effectsOf (there.steps engine)) := by
  have same : Message.words Sample.spread = Message.words Sample.compact := by decide +kernel
  obtain ⟨-, intents, -, alike⟩ := layout_is_ignored same
  obtain ⟨engine, built, agree⟩ := alike {}
  obtain rfl := Except.ok.inj ((withBuiltinGraph_eq {}).symm.trans built)
  have spared : ∀ request, (Sample.alone request).Spared := by
    intro request
    refine ⟨List.forall_mem_nil _, fun event inside => ?_⟩
    rw [Sample.alone_steps request event inside]
    rfl
  have some : ∀ message, Message.words message ≠ [] → (Json.str message).size ≤ sizeLimit →
      messageText (some (.str message)) ≠ "" := by
    intro message words small
    rw [show messageText (some (.str message)) = Message.trimmed message from if_pos small]
    exact fun empty => words ((Message.trimmed_eq_empty_iff message).mp empty)
  have small : (Json.str Sample.spread).size ≤ sizeLimit := by decide +kernel
  have smallToo : (Json.str Sample.compact).size ≤ sizeLimit := by decide +kernel
  have wordy : Message.words Sample.compact ≠ [] := by decide +kernel
  obtain ⟨answer, answered, -⟩ := alone_answered_by_graph TemplateLegacy.respond
    ⟨"spread", .str Sample.spread, Dict.empty⟩ (some _ (by rwa [same]) small)
  obtain ⟨other, answeredToo, -⟩ := alone_answered_by_graph TemplateLegacy.respond
    ⟨"compact", .str Sample.compact, Dict.empty⟩ (some _ wordy smallToo)
  obtain ⟨visited, -⟩ := agree _ _ _ _ rfl rfl small smallToo (spared _) (spared _) answered
    answeredToo
  exact ⟨same, intents, _, answer, other, built, answered, answeredToo, visited⟩

end Switchyard.Builtin
