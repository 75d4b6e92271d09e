import Switchyard.Proofs.Builtin.Nodes
import Switchyard.Proofs.Builtin.Reply
set_option autoImplicit false

/-! The walk of a request through the built-in graph, from the first node to the last. The message
and whether there is a history decide everything that the walk leaves for others to see. Main
statement: `treads_conduct`. -/
namespace Switchyard.Builtin

open Context

def complaints (text : String) : List String :=
  if text = "" then [(NodeError.leaf (.failed "nothing to respond to")).message] else []

/-- The footprints of a walk once the message has been scored. -/
def lastStretch (threshold : Float) (remembered : Bool) (text : String) : List Footprint :=
  if threshold < Message.complexity text then
    [.chose (selection remembered text), .visited "enhanced-processing" none [],
      .visited "enhanced-response" none (complaints text)]
  else [.visited "standard-processing" none (complaints text)]

def conduct (threshold : Float) (remembered : Bool) (text : String) : List Footprint :=
  [.visited "orchestration-enabled" (some (verdict Condition.orchestrationEnabled true)) [],
    .visited "context-analysis" none [], .visited "enrich-context" none [],
    .visited "complexity-check"
      (some (verdict Condition.complexityHigh (threshold < Message.complexity text))) []] ++
    lastStretch threshold remembered text

def lastNode (threshold : Float) (text : String) : String :=
  if threshold < Message.complexity text then "enhanced-response" else "standard-processing"

/-- A walk with a message ends with the reply, as far as a context can hold it, and a walk without
one fails at the node that responds. -/
def Concludes (threshold : Float) (remembered : Bool) (text : String) :
    Except WalkError Context → Prop
  | .ok context => text ≠ "" ∧
      context.get? Key.finalResponse = some (stored (.str (reply threshold remembered text)))
  | .error error => text = "" ∧
      error = .nodeFailed (lastNode threshold text) (.leaf (.failed "nothing to respond to"))

section Walk

variable {settings : Settings} {now : Timestamp} {remembered : Bool} {text : String}
  {context : Context} {visited : List String} {id : String} {node : DecisionNode}

theorem get?_said (action : NodeAction) (leaf : DataFlowNode) (response : String)
    (context : Context) :
    (contextAfterLeaf action leaf (said response) context).get? Key.finalResponse =
      some (stored (.str response)) := by
  have answered : (said response).get? Key.finalResponse = some (.str response) := by
    simp [said, Dict.ofList]
  rw [get?_contextAfterLeaf, if_neg (by decide), delivered, if_neg (by decide),
    Leaves.get?_complete, answered]
  rfl

theorem treads_responder (fresh : visited.contains id = false)
    (known : frozen.decision? id = some node) {action : NodeAction}
    (behavior : node.behavior = .action action) (target : action.target = responseGenerator)
    (last : node.children = []) (informed : Informed remembered text context)
    {threshold : Float} (named : id = lastNode threshold text)
    (noted : plainReply text ++ capabilityNote (withParameters action context) =
      reply threshold remembered text) :
    ∃ result, Treads (executor settings) now (.between ⟨[id], visited, context⟩)
      [.visited node.id none (complaints text)] result ∧
      Concludes threshold remembered text result := by
  have resolved : frozen.dataFlow? action.target = some dataFlowNodes[2] := by
    rw [target]
    rfl
  have outcome := @outcome_leaf settings node action _ _ behavior resolved rfl context
  have left := @footprints_leaf settings node action _ behavior resolved context
  have ready : Informed remembered text (withParameters action context) := informed.withParameters
  by_cases empty : text = ""
  · subst empty
    rw [ready.respond_error] at outcome
    have treads := @treads_failed (executor settings) now id visited context node fresh known _
      outcome []
    rw [left, outcome] at treads
    exact ⟨_, treads, rfl, by rw [named]⟩
  · rw [ready.respond_eq empty, noted, last] at outcome
    have treads := Treads.visit fresh known outcome (treads_nil _ now _ _)
    rw [left, outcome, List.append_nil] at treads
    have content : complaints text = [] := if_neg empty
    rw [content]
    exact ⟨_, treads, empty, get?_said _ _ _ _⟩

/-- The style of a response is that of the action, whatever the context says. -/
theorem isDetailed_withParameters {action : NodeAction}
    (some : action.parameters.isEmpty = false) (context : Context) :
    isDetailed (withParameters action context) =
      (((stored (parametersObject action)).field? "style").bind Json.asText? ==
        Option.some "detailed") := by
  rw [isDetailed, withParameters, if_neg (Bool.eq_false_iff.mp some), get?_set, if_pos rfl]
  rfl

theorem treads_enhanced (demanding : settings.complexityThreshold < Message.complexity text)
    (informed : Informed remembered text context) :
    ∃ result, Treads (executor settings) now
      (.between ⟨["enhanced-processing"],
        ["complexity-check", "enrich-context", "context-analysis", root], context⟩)
      (lastStretch settings.complexityThreshold remembered text) result ∧
      Concludes settings.complexityThreshold remembered text result := by
  have decides := @Informed.decide_eq remembered text context
    ⟨.configure, "reasoning", [⟨"quality_mode", .str "enhanced"⟩]⟩ informed decisionNodes[4] rfl
  have processed := @outcome_capability settings context decisionNodes[4] _ _ rfl decides
  have left := @footprints_capability settings context decisionNodes[4] _ _ rfl decides
  let chosen := context.set Key.capabilityResult (selection remembered text).toJson
  have kept : Informed remembered text chosen :=
    informed.of_keeps (keeps_set (by decide) context _)
  have noted : plainReply text ++ capabilityNote
      (withParameters ⟨.activate, responseGenerator, [⟨"style", .str "detailed"⟩]⟩ chosen) =
      reply settings.complexityThreshold remembered text := by
    have detailed := @isDetailed_withParameters
      ⟨.activate, responseGenerator, [⟨"style", .str "detailed"⟩]⟩ rfl chosen
    have result : (withParameters
        ⟨.activate, responseGenerator, [⟨"style", .str "detailed"⟩]⟩ chosen).get?
          Key.capabilityResult = some (selection remembered text).toJson := by
      rw [get?_withParameters_of_ne _ _ (by decide), get?_set, if_pos rfl, stored_selection]
    rw [capabilityNote_of_detailed (detailed.trans (by decide)) result, reply, if_pos demanding]
  have named : "enhanced-response" = lastNode settings.complexityThreshold text := by
    rw [lastNode, if_pos demanding]
  obtain ⟨result, responds, concludes⟩ := @treads_responder settings now remembered text chosen
    ["enhanced-processing", "complexity-check", "enrich-context", "context-analysis", root]
    "enhanced-response" decisionNodes[5] rfl rfl _ rfl rfl rfl kept _ named noted
  have treads := Treads.visit rfl rfl processed responds
  rw [left] at treads
  rw [lastStretch, if_pos demanding]
  exact ⟨result, treads, concludes⟩

theorem treads_standard (easy : ¬ settings.complexityThreshold < Message.complexity text)
    (informed : Informed remembered text context) :
    ∃ result, Treads (executor settings) now
      (.between ⟨["standard-processing"],
        ["complexity-check", "enrich-context", "context-analysis", root], context⟩)
      (lastStretch settings.complexityThreshold remembered text) result ∧
      Concludes settings.complexityThreshold remembered text result := by
  have concise := @isDetailed_withParameters ⟨.activate, responseGenerator,
    [⟨"style", .str "concise"⟩, ⟨"quality_mode", .str "standard"⟩]⟩ rfl context
  have noted : plainReply text ++ capabilityNote (withParameters ⟨.activate, responseGenerator,
      [⟨"style", .str "concise"⟩, ⟨"quality_mode", .str "standard"⟩]⟩ context) =
      reply settings.complexityThreshold remembered text := by
    rw [capabilityNote_of_concise (concise.trans (by decide)), reply, if_neg easy]
  have named : "standard-processing" = lastNode settings.complexityThreshold text := by
    rw [lastNode, if_neg easy]
  rw [lastStretch, if_neg easy]
  exact @treads_responder settings now remembered text context
    ["complexity-check", "enrich-context", "context-analysis", root]
    "standard-processing" decisionNodes[6] rfl rfl _ rfl rfl rfl informed _ named noted

theorem treads_scored (informed : Informed remembered text context) :
    ∃ result, Treads (executor settings) now
      (.between ⟨["complexity-check"], ["enrich-context", "context-analysis", root], context⟩)
      (.visited "complexity-check" (some (verdict Condition.complexityHigh
        (settings.complexityThreshold < Message.complexity text))) [] ::
        lastStretch settings.complexityThreshold remembered text) result ∧
      Concludes settings.complexityThreshold remembered text result := by
  have registered := (get?_builtin settings.complexityThreshold).2
  have checked := @outcome_condition settings decisionNodes[3] _ _ _ _ rfl registered context
  have left := @footprints_condition settings decisionNodes[3] _ _ _ _ rfl registered context
  rw [informed.isComplex_eq] at checked left
  by_cases demanding : settings.complexityThreshold < Message.complexity text
  · rw [decide_eq_true demanding] at checked left ⊢
    obtain ⟨result, later, concludes⟩ := @treads_enhanced settings now remembered text context
      demanding informed
    have treads := Treads.visit rfl rfl checked later
    rw [left] at treads
    exact ⟨result, treads, concludes⟩
  · rw [decide_eq_false demanding] at checked left ⊢
    obtain ⟨result, later, concludes⟩ := @treads_standard settings now remembered text context
      demanding informed
    have treads := Treads.visit rfl rfl checked later
    rw [left] at treads
    exact ⟨result, treads, concludes⟩

theorem treads_informed (informed : Informed remembered text context) :
    ∃ result, Treads (executor settings) now
      (.between ⟨["enrich-context", "complexity-check"], ["context-analysis", root], context⟩)
      (.visited "enrich-context" none [] :: .visited "complexity-check"
        (some (verdict Condition.complexityHigh
          (settings.complexityThreshold < Message.complexity text))) [] ::
        lastStretch settings.complexityThreshold remembered text) result ∧
      Concludes settings.complexityThreshold remembered text result := by
  obtain ⟨outputs, enriches, silent⟩ :=
    enrich_ok (withParameters ⟨.activate, contextEnrichment, []⟩ context)
  have gathers := @outcome_leaf settings decisionNodes[2] _ dataFlowNodes[1] enrich rfl rfl rfl
    context
  have left := @footprints_leaf settings decisionNodes[2] _ dataFlowNodes[1] rfl rfl context
  rw [enriches] at gathers
  have undeclared : ∀ key ∈ subjectKeys, key ∉ dataFlowNodes[1].outputs := by decide
  have foreign : ∀ key ∈ subjectKeys, key ≠ "enrichedContext" := by decide
  have kept := informed.of_keeps (keeps_contextAfterLeaf (by decide) (by decide)
    ⟨.activate, contextEnrichment, []⟩ undeclared (fun key told => silent key (foreign key told))
    context)
  obtain ⟨result, later, concludes⟩ := @treads_scored settings now remembered text _ kept
  have treads := Treads.visit rfl rfl gathers later
  rw [left, gathers] at treads
  exact ⟨result, treads, concludes⟩

theorem treads_conduct (enabled : Condition.isEnabled context = true)
    (content : Message.trimmed context.content = text)
    (few : Message.wordCount text < 2 ^ 53)
    (history : (context.items Key.history).isEmpty = !remembered) :
    ∃ result, Treads (executor settings) now (Walk.start root context)
      (conduct settings.complexityThreshold remembered text) result ∧
      Concludes settings.complexityThreshold remembered text result := by
  have registered := (get?_builtin settings.complexityThreshold).1
  have entered := @outcome_condition settings decisionNodes[0] _ _ _ _ rfl registered context
  have leftFirst := @footprints_condition settings decisionNodes[0] _ _ _ _ rfl registered context
  rw [enabled] at entered leftFirst
  have analyses : analyse (withParameters ⟨.activate, inputAnalysis, []⟩ context) =
      .ok (analysis text) := by
    rw [← content]
    rfl
  have leads := @outcome_leaf settings decisionNodes[1] _ dataFlowNodes[0] analyse rfl rfl rfl
    context
  have left := @footprints_leaf settings decisionNodes[1] _ dataFlowNodes[0] rfl rfl context
  rw [analyses] at leads
  have informed := informed_contextAfterLeaf ⟨.activate, inputAnalysis, []⟩
    (by decide : Key.content ∉ dataFlowNodes[0].outputs) (by decide) few content history
  obtain ⟨result, later, concludes⟩ := @treads_informed settings now remembered text _ informed
  have treads := Treads.visit rfl rfl leads later
  rw [left, leads] at treads
  have whole := Treads.visit rfl rfl entered treads
  rw [leftFirst] at whole
  exact ⟨result, whole, concludes⟩

end Walk

theorem enabled_prepare (request : Request) :
    Condition.isEnabled (Controller.prepare request) = true := by
  unfold Condition.isEnabled Context.bool?
  rw [Controller.prepare, Context.get?_set, if_pos rfl]
  rfl

theorem treads_request (settings : Settings) (now : Timestamp) (request : Request) :
    let text := messageText (effectiveContent request.input request.context)
    let remembered := remembers (effectiveHistory request.input request.context)
    ∃ result, Treads (executor settings) now (Walk.start root (Controller.prepare request))
      (conduct settings.complexityThreshold remembered text) result ∧
      Concludes settings.complexityThreshold remembered text result :=
  treads_conduct (enabled_prepare request) (trimmed_prepare request) (wordCount_messageText_lt _)
    (history_prepare request)

end Switchyard.Builtin
