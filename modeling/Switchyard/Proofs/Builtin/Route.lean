import Switchyard.Proofs.Builtin.Conduct
import Switchyard.Proofs.Engine.Answers
set_option autoImplicit false

/-! The way of a request through the built-in graph. Whatever the input and the caller say, the
message alone decides which nodes are visited and whether the graph or the legacy path answers. Main
statement: `Builtin.routes_requests`. -/
namespace Switchyard.Builtin

/-- The nodes that are visited for a message once it has been scored, each with its errors. -/
def processing (threshold : Float) (text : String) : List (String × List String) :=
  if threshold < Message.complexity text then
    [("enhanced-processing", []), ("enhanced-response", complaints text)]
  else [("standard-processing", complaints text)]

/-- All nodes that are visited for a message. -/
def route (threshold : Float) (text : String) : List (String × List String) :=
  [("orchestration-enabled", []), ("context-analysis", []), ("enrich-context", []),
    ("complexity-check", [])] ++ processing threshold text

/-- Walks with a message come to their end, walks without one fail. -/
def Settles (text : String) : Except WalkError Context → Prop
  | .ok _ => text ≠ ""
  | .error error => text = "" ∧ error ≠ .cancelled

/-! The way. -/

theorem filterMap_visit?_conduct (threshold : Float) (remembered : Bool) (text : String) :
    (conduct threshold remembered text).filterMap Footprint.visit? = route threshold text := by
  unfold conduct lastStretch route processing
  by_cases demanding : threshold < Message.complexity text
  · rw [if_pos demanding, if_pos demanding]
    rfl
  · rw [if_neg demanding, if_neg demanding]
    rfl

theorem tours_route (settings : Settings) (now : Timestamp) (request : Request) :
    let text := messageText (effectiveContent request.input request.context)
    ∃ result, Tours (executor settings) now (Walk.start root (Controller.prepare request))
      (route settings.complexityThreshold text) result ∧ Settles text result := by
  intro text
  obtain ⟨result, treads, concludes⟩ := treads_request settings now request
  refine ⟨result, ⟨treads.result, ?_⟩, ?_⟩
  · rw [← filterMap_visit?_footprints, treads.path]
    exact filterMap_visit?_conduct _ _ _
  · cases result with
    | ok context => exact concludes.1
    | error error =>
      obtain ⟨empty, rfl⟩ := concludes
      exact ⟨empty, WalkError.noConfusion⟩

/-! The answer. -/

theorem conclude_source {settings : Settings} (graceful : settings.strategy = .graceful)
    {text : String} {result : Except WalkError Context} (settles : Settles text result)
    (now : Timestamp) (request : Request) :
    ∃ answer, ((engine settings).controller.conclude now request result).1 = .ok answer ∧
      answer.source = if text = "" then .legacy else .graph := by
  cases result with
  | ok context => exact ⟨_, rfl, (if_neg settles).symm⟩
  | error error =>
    obtain ⟨empty, goesOn⟩ := settles
    have lenient : (engine settings).controller.strategy ≠ .strict := by
      change settings.strategy ≠ .strict
      rw [graceful]
      decide
    have thanks : ∃ response, TemplateLegacy.respond request.legacyCall = .ok response := by
      unfold TemplateLegacy.respond
      dsimp only
      split <;> exact ⟨_, rfl⟩
    obtain ⟨response, responds⟩ := thanks
    obtain ⟨sameReply, -⟩ := (engine settings).controller.recover_eq_answerByLegacy now request
      lenient goesOn
    have asked : (engine settings).controller.askLegacy now request.legacyCall =
        (.ok (.ofLegacy request.correlationId { response := response, timestamp := now }),
          .calledLegacy request.legacyCall) := by
      change ((TemplateLegacy.respond request.legacyCall).map _, _) = _
      rw [responds]
      rfl
    refine ⟨.ofLegacy request.correlationId { response := response, timestamp := now }, ?_,
      (if_pos empty).symm⟩
    rw [Controller.conclude, sameReply, Controller.answerByLegacy, asked]

/-- How requests go through the built-in graph. Whatever their input and their context say and
whatever else the engine does meanwhile, a request that is not cancelled is answered by the graph if
it has a message and by the legacy path otherwise. On its way it visits the same nodes in both
cases, by the score of the message the enhanced ones or the standard one; only the last of them
fails, and only when there is no message. A request that takes its steps and is not given up is
answered. -/
theorem routes_requests (settings : Settings) (enabled : settings.enabled = true)
    (graceful : settings.strategy = .graceful) :
    ∃ engine : Engine,
      Engine.withBuiltinGraph settings CommandLine.capability TemplateLegacy.respond =
        .ok engine ∧
      ∀ before startedAt request during,
        (∀ event ∈ before, event.2 ≠ .shutdown) →
        (∀ event ∈ during, event.2.cancels request.correlationId = false) →
        let text := messageText (effectiveContent request.input request.context)
        let seq := (engine.run engine.initial before).nextSeq
        let steps := engine.stepsOf seq
          (engine.run engine.initial (before ++ [(startedAt, .start request)])) during
        (∀ reply, Engine.Answered steps seq reply →
          visits (Engine.effectsOf steps) = route settings.complexityThreshold text ∧
          ∃ answer, reply = .ok answer ∧
            answer.source = if text = "" then .legacy else .graph) ∧
        ((∀ event ∈ during, event.2 ≠ .drop seq) →
          engine.maxSteps ≤ (Engine.stepTimes seq during).length →
          ∃ reply, Engine.Answered steps seq reply) := by
  refine ⟨engine settings, withBuiltinGraph_eq settings, ?_⟩
  intro before startedAt request during running spared text seq steps
  let live : LiveRequest :=
    ⟨seq, request, ((engine settings).run (engine settings).initial before).stopped, .arrived⟩
  have solo : steps = (engine settings).soloSteps live during :=
    (engine settings).stepsOf_start before startedAt request during
  rw [solo]
  refine ⟨fun reply answered => ?_, fun kept enough => ?_⟩
  · obtain ⟨told, result, now, along, calm⟩ :=
      @Engine.soloSteps_walk (engine settings) live reply enabled during answered
    have goesOn : live.cancelled = false :=
      (engine settings).run_stopped (engine settings).initial running
    obtain ⟨reached, tours, settles⟩ := tours_route settings now request
    obtain ⟨rfl, path⟩ := tours.along (calm goesOn spared) along.ended
    constructor
    · have opening : visits (live.phase.opening live.request) = [] :=
        visits_of_quiet fun effect inside => Effect.quiet_of_mem_warnings inside
      have ending : visits (((engine settings).controller.conclude now live.request result).2 ++
          Engine.closing reply) = [] :=
        visits_of_quiet (List.forall_mem_append.mpr
          ⟨(engine settings).controller.conclude_quiet now request result,
            Engine.closing_quiet reply⟩)
      rw [along.does, visits_append, visits_append, opening, ending, List.nil_append,
        List.append_nil]
      exact path
    · obtain ⟨answer, concludes, source⟩ := conclude_source graceful settles now request
      exact ⟨answer, along.replies.trans concludes, source⟩
  · exact Engine.soloSteps_end_of_arrived live rfl kept enough

/-- A question whose caller claims that it is not worth the effort. -/
def Sample.question : Request where
  correlationId := "question"
  input := .obj [("complexityScore", .int 0), ("content", .str " Why is the sky blue at noon? ")]
  context := Dict.ofList [(Context.Key.orchestrationEnabled, .bool false)]

theorem routes_question :
    ∃ (engine : Engine) (reply : Reply) (answer : OrchestrationResult),
      Engine.withBuiltinGraph {} CommandLine.capability TemplateLegacy.respond = .ok engine ∧
      let steps := engine.stepsOf 0
        (engine.run engine.initial [(⟨0, false⟩, .start Sample.question)])
        (List.replicate 20 (⟨1, false⟩, .step 0))
      Engine.Answered steps 0 reply ∧ reply = .ok answer ∧ answer.source = .graph ∧
      visits (Engine.effectsOf steps) =
        [("orchestration-enabled", []), ("context-analysis", []), ("enrich-context", []),
          ("complexity-check", []), ("enhanced-processing", []), ("enhanced-response", [])] := by
  obtain ⟨engine, built, routes⟩ := routes_requests {} rfl rfl
  obtain rfl := Except.ok.inj ((withBuiltinGraph_eq {}).symm.trans built)
  have text : messageText (effectiveContent Sample.question.input Sample.question.context) =
      "Why is the sky blue at noon?" := by decide +kernel
  have demanding : ({} : Settings).complexityThreshold <
      Message.complexity "Why is the sky blue at noon?" := by decide +kernel
  have stepping : ∀ event ∈ List.replicate 20 ((⟨1, false⟩ : Timestamp), Engine.Event.step 0),
      event.2 = .step 0 := by
    intro event inside
    rw [List.eq_of_mem_replicate inside]
  obtain ⟨answers, ends⟩ := routes [] ⟨0, false⟩ Sample.question
    (List.replicate 20 (⟨1, false⟩, .step 0)) (List.forall_mem_nil _) (fun event inside => by
      rw [stepping event inside]
      rfl)
  obtain ⟨reply, answered⟩ := ends (fun event inside => by
    rw [stepping event inside]
    exact Engine.Event.noConfusion) (by decide)
  obtain ⟨visited, answer, replies, source⟩ := answers reply answered
  rw [text, route, processing, if_pos demanding] at visited
  rw [text] at source
  exact ⟨_, reply, answer, built, answered, replies, source, visited⟩

end Switchyard.Builtin
