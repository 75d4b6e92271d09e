import Mathlib.Data.List.Basic
import Switchyard.Proofs.Builtin.Conduct
import Switchyard.Proofs.Engine.Occasion
set_option autoImplicit false

/-! What a request is told when the graph answers it. It is told the reply to its message as long as
the reply can be held by a context, and otherwise what the context holds in its place: the reply is
longer than the message, so that a message within the limit can have a reply beyond it. Main
statements: `graph_tells_reply`, `long_message_is_told_a_marker`. -/
namespace Switchyard.Builtin

open Context

def heldReply (whole : String) : String :=
  if (Json.str whole).size ≤ sizeLimit then whole
  else (truncationMarker (Json.str whole).size).compact

theorem responseText_stored (whole : String) :
    responseText (some (stored (.str whole))) = heldReply whole := by
  unfold stored heldReply
  by_cases large : sizeLimit < (Json.str whole).size
  · rw [if_pos large, if_neg (Nat.not_le.mpr large)]
    rfl
  · rw [if_neg large, if_pos (Nat.not_lt.mp large)]
    rfl

theorem ok_of_source_graph {controller : Controller} {now : Timestamp} {request : Request}
    {result : Except WalkError Context} {answer : OrchestrationResult}
    (concluded : (controller.conclude now request result).1 = .ok answer)
    (source : answer.source = .graph) :
    ∃ context, result = .ok context ∧
      answer.response = responseText (context.get? Key.finalResponse) := by
  rcases Controller.walked_or_unwalked concluded with
    ⟨context, ended, rfl⟩ | ⟨response, rfl⟩ | rfl
  · exact ⟨context, ended, rfl⟩
  · cases source
  · cases source

theorem legacy_not_graph {controller : Controller} {now : Timestamp} {request : Request}
    {answer : OrchestrationResult}
    (answered : (controller.answerByLegacy now request).1 = .ok answer) :
    answer.source ≠ .graph := by
  rcases Controller.unwalked_of_answerByLegacy answered with ⟨response, rfl⟩ | rfl
  · exact ResultSource.noConfusion
  · exact ResultSource.noConfusion

theorem response_of_graph (settings : Settings) (legacy : LegacyPath) {occasion : Engine.Occasion}
    {answer : OrchestrationResult}
    (answered : Engine.Answered (occasion.steps (engineWith settings legacy))
      (occasion.seq (engineWith settings legacy)) (.ok answer))
    (source : answer.source = .graph) :
    messageText (effectiveContent occasion.request.input occasion.request.context) ≠ "" ∧
      answer.response = heldReply (reply settings.complexityThreshold
        (remembers (effectiveHistory occasion.request.input occasion.request.context))
        (messageText (effectiveContent occasion.request.input occasion.request.context))) := by
  by_cases enabled : settings.enabled = true
  · obtain ⟨told, result, now, ended, replies, -, -⟩ := Engine.Occasion.walk enabled answered
    obtain ⟨context, rfl, response⟩ := ok_of_source_graph replies.symm source
    obtain ⟨expected, treads, concludes⟩ := treads_request settings now occasion.request
    -- The walk has ended well, so that no cancellation can have touched it.
    obtain rfl := treads.result_of_ok ended
    obtain ⟨some, holds⟩ := concludes
    rw [response, holds, responseText_stored]
    exact ⟨some, rfl⟩
  · have disabled : (engineWith settings legacy).controller.enabled = false :=
      Bool.eq_false_iff.mpr enabled
    obtain ⟨now, replies, -⟩ := Engine.Occasion.legacy disabled answered
    exact absurd source (legacy_not_graph replies.symm)

/-- What a request is told that the graph has answered, whatever its input, the caller's context, the
settings and the legacy path, and whatever happens to the engine before and meanwhile: the reply to
its message if the reply fits into a context, and otherwise the marker that stands in for it. -/
theorem graph_tells_reply (settings : Settings) (legacy : LegacyPath) :
    ∃ engine : Engine,
      Engine.withBuiltinGraph settings CommandLine.capability legacy = .ok engine ∧
      ∀ (occasion : Engine.Occasion) (answer : OrchestrationResult),
        Engine.Answered (occasion.steps engine) (occasion.seq engine) (.ok answer) →
        answer.source = .graph →
        let text := messageText
          (effectiveContent occasion.request.input occasion.request.context)
        let remembered := remembers
          (effectiveHistory occasion.request.input occasion.request.context)
        let whole := reply settings.complexityThreshold remembered text
        text ≠ "" ∧ answer.response =
          if (Json.str whole).size ≤ sizeLimit then whole
          else (truncationMarker (Json.str whole).size).compact :=
  ⟨engineWith settings legacy, withBuiltinGraph_eq_engineWith settings legacy,
    fun _ _ answered source => response_of_graph settings legacy answered source⟩

/-- A request that is started first and takes its steps. -/
def Sample.alone (request : Request) : Engine.Occasion where
  before := []
  startedAt := ⟨0, false⟩
  request := request
  during := List.replicate 20 (⟨1, false⟩, .step 0)

theorem Sample.alone_steps (request : Request) :
    ∀ event ∈ (Sample.alone request).during, event.2 = .step 0 := by
  intro event inside
  rw [List.eq_of_mem_replicate inside]

theorem alone_answered_by_graph (legacy : LegacyPath) (request : Request)
    (some : messageText (effectiveContent request.input request.context) ≠ "") :
    ∃ answer, Engine.Answered ((Sample.alone request).steps (engineWith {} legacy))
        ((Sample.alone request).seq (engineWith {} legacy)) (.ok answer) ∧
      answer.source = .graph := by
  have steps := Sample.alone_steps request
  have served : (Sample.alone request).Served (engineWith {} legacy) := by
    have enough : 20 ≤ (Engine.stepTimes 0
        (List.replicate 20 ((⟨1, false⟩ : Timestamp), Engine.Event.step 0))).length := by decide
    refine ⟨fun event inside => ?_, enough⟩
    rw [steps event inside]
    exact Engine.Event.noConfusion
  have spared : (Sample.alone request).Spared := by
    refine ⟨List.forall_mem_nil _, fun event inside => ?_⟩
    rw [steps event inside]
    rfl
  obtain ⟨reply, answered⟩ := served.answered
  obtain ⟨told, result, now, ended, replies, -, calm⟩ :=
    @Engine.Occasion.walk (engineWith {} legacy) (Sample.alone request) reply rfl answered
  obtain ⟨expected, treads, concludes⟩ := treads_request {} now request
  obtain ⟨rfl, -⟩ := treads.along (calm spared) ended
  cases result with
  | ok context => exact ⟨_, replies ▸ answered, rfl⟩
  | error error => exact absurd concludes.1 some

theorem greeting_is_told_its_reply :
    ∃ (engine : Engine) (answer : OrchestrationResult),
      Engine.withBuiltinGraph {} CommandLine.capability TemplateLegacy.respond = .ok engine ∧
      Engine.Answered ((Sample.alone ⟨"hi", .str " Hi there ", Dict.empty⟩).steps engine) 0
        (.ok answer) ∧
      answer.source = .graph ∧ answer.response = "Hello! How can I help you today?" := by
  let request : Request := ⟨"hi", .str " Hi there ", Dict.empty⟩
  have text : messageText (effectiveContent request.input request.context) = "Hi there" := by
    decide +kernel
  have said : reply ({} : Settings).complexityThreshold
      (remembers (effectiveHistory request.input request.context)) "Hi there" =
        "Hello! How can I help you today?" := by decide +kernel
  have short : (Json.str "Hello! How can I help you today?").size ≤ sizeLimit := by decide +kernel
  obtain ⟨engine, built, tells⟩ := graph_tells_reply {} TemplateLegacy.respond
  obtain rfl := Except.ok.inj
    ((withBuiltinGraph_eq_engineWith {} TemplateLegacy.respond).symm.trans built)
  obtain ⟨answer, answered, source⟩ := alone_answered_by_graph TemplateLegacy.respond request (by
    rw [text]
    decide)
  obtain ⟨-, response⟩ := tells (Sample.alone request) answer answered source
  refine ⟨_, answer, built, answered, source, ?_⟩
  change answer.response = heldReply (reply _
    (remembers (effectiveHistory request.input request.context))
    (messageText (effectiveContent request.input request.context))) at response
  rw [response, text, said]
  exact if_pos short

/-! A message of one long word. -/

def word (count : Nat) : String := String.ofList (List.replicate count 'a')

section Word

variable {count : Nat}

theorem toList_word (count : Nat) : (word count).toList = List.replicate count 'a' :=
  String.toList_ofList

theorem size_word (opening : String) (count : Nat) :
    (Json.str (opening ++ word count)).size = (Json.str opening).size + count := by
  have letters : ∀ start, (List.replicate count 'a').foldl
      (fun size char => size + (Json.escape char).utf8ByteSize) start = start + count := by
    induction count with
    | zero => exact fun start => rfl
    | succ count ih =>
      intro start
      have letter : (Json.escape 'a').utf8ByteSize = 1 := by decide
      rw [List.replicate_succ, List.foldl_cons, letter, ih]
      omega
  change (opening ++ word count).toList.foldl _ 1 + 1 = opening.toList.foldl _ 1 + 1 + count
  rw [String.toList_append, List.foldl_append, toList_word, letters]
  omega

theorem trimmed_word (count : Nat) : Message.trimmed (word count) = word count := by
  have start : ∀ count, Text.trimStart (List.replicate count 'a') = List.replicate count 'a' := by
    intro count
    cases count with
    | zero => rfl
    | succ count => exact List.dropWhile_cons_of_neg (by decide)
  rw [Message.trimmed, Text.trim, Text.trimEnd, toList_word, start, List.reverse_replicate, start,
    List.reverse_replicate, word]

theorem isQuestion_word (count : Nat) : Message.isQuestion (word count) = false := by
  rw [Message.isQuestion, Text.endsInQuestionMark_eq, toList_word, List.reverse_replicate]
  cases count with
  | zero => rfl
  | succ count =>
    rw [List.replicate_succ, Text.asks_cons]
    rfl

theorem wordCount_word (some : 0 < count) : Message.wordCount (word count) = 1 := by
  have split : (List.replicate count 'a').foldr Text.prependChar ([], []) =
      (List.replicate count 'a', []) := by
    clear some
    induction count with
    | zero => rfl
    | succ count ih =>
      rw [List.replicate_succ, List.foldr_cons, ih]
      rfl
  have full : (List.replicate count 'a').isEmpty = false := by
    rw [List.isEmpty_eq_false_iff, Ne, List.replicate_eq_nil_iff]
    omega
  rw [Message.wordCount, Text.words, toList_word, split]
  simp [full]

theorem complexity_word (some : 0 < count) :
    ¬ ({} : Settings).complexityThreshold < Message.complexity (word count) := by
  have same : Message.complexity (word count) = Message.complexity "a" := by
    have words : Message.wordCount "a" = 1 := by decide
    have statement : Message.isQuestion "a" = false := by decide
    rw [Message.complexity, Message.complexity, wordCount_word some, isQuestion_word, words,
      statement]
  rw [same]
  decide +kernel

theorem greets_word (long : 10 ≤ count) : Message.greets (word count) = false := by
  have lowered : ∀ written before : List Char,
      Text.lowerOnto written before (List.replicate count 'a') =
        written.reverse ++ List.replicate count 'a' := by
    clear long
    induction count with
    | zero =>
      intro written before
      rw [List.replicate_zero, Text.lowerOnto, List.append_nil]
    | succ count ih =>
      intro written before
      have letter : Text.lowerAt before 'a' (List.replicate count 'a') = ['a'] := by
        have plain : Text.lowerChar 'a' = 'a' := by decide
        unfold Text.lowerAt
        rw [if_neg (by decide), if_neg (by decide), plain]
      rw [List.replicate_succ, Text.lowerOnto, letter, ih]
      simp
  have alphanumeric : Text.isAlphanumeric 'a' = true := by decide
  have first : Text.firstWord (List.replicate count 'a') = List.replicate count 'a' := by
    have kept : (List.replicate count 'a').dropWhile (fun char => !Text.isAlphanumeric char) =
        List.replicate count 'a' := by
      cases count with
      | zero => rfl
      | succ count => exact List.dropWhile_cons_of_neg (by simp [alphanumeric])
    rw [Text.firstWord, kept, List.takeWhile_replicate, if_pos alphanumeric]
  rw [Message.greets, toList_word, Text.lower, lowered, List.reverse_nil, List.nil_append, first]
  -- No word of greeting is as long.
  refine Bool.eq_false_iff.mpr fun listed => ?_
  have short : ∀ greeting ∈ Message.greetings, greeting.toList.length < 10 := by decide
  have bound := short _ (List.contains_iff_mem.mp listed)
  rw [String.toList_ofList, List.length_replicate] at bound
  omega

theorem reply_word (long : 10 ≤ count) (remembered : Bool) :
    reply ({} : Settings).complexityThreshold remembered (word count) =
      "Understood: " ++ word count := by
  rw [reply, if_neg (complexity_word (by omega)), plainReply, isQuestion_word, greets_word long]
  exact String.append_empty

theorem messageText_word (fits : count + 2 ≤ sizeLimit) :
    messageText (some (.str (word count))) = word count := by
  have size := size_word "" count
  have quotes : (Json.str "").size = 2 := by decide
  rw [String.empty_append, quotes] at size
  change (if (Json.str (word count)).size ≤ sizeLimit then Message.trimmed (word count) else "") = _
  rw [if_pos (by omega), trimmed_word]

theorem response_of_word (legacy : LegacyPath) (long : 10 ≤ count) (fits : count + 2 ≤ sizeLimit) :
    ∃ answer, Engine.Answered ((Sample.alone
          ⟨"r", Json.object [("content", .str (word count))], Dict.empty⟩).steps
          (engineWith {} legacy)) 0 (.ok answer) ∧
      answer.source = .graph ∧ answer.response = heldReply ("Understood: " ++ word count) := by
  let request : Request := ⟨"r", Json.object [("content", .str (word count))], Dict.empty⟩
  have text : messageText (effectiveContent request.input request.context) = word count :=
    messageText_word fits
  have some : word count ≠ "" := by
    intro empty
    have letters := toList_word count
    rw [empty] at letters
    have none := congrArg List.length letters
    rw [List.length_replicate] at none
    change 0 = count at none
    omega
  rw [← text] at some
  obtain ⟨answer, answered, source⟩ := alone_answered_by_graph legacy request some
  obtain ⟨-, response⟩ := response_of_graph {} legacy answered source
  refine ⟨answer, answered, source, ?_⟩
  change answer.response = heldReply (reply _ _
    (messageText (effectiveContent request.input request.context))) at response
  rw [response, text, reply_word long]

end Word

/-- A message that a context keeps as it is, but whose reply is too long for one, is told the marker
of a value that is too large and not its reply. -/
theorem long_message_is_told_a_marker :
    ∃ (engine : Engine) (answer : OrchestrationResult),
      Engine.withBuiltinGraph {} CommandLine.capability TemplateLegacy.respond = .ok engine ∧
      Engine.Answered ((Sample.alone
        ⟨"r", Json.object [("content", .str (word 1048570))], Dict.empty⟩).steps engine) 0
          (.ok answer) ∧
      answer.source = .graph ∧
      messageText (some (.str (word 1048570))) = word 1048570 ∧
      reply ({} : Settings).complexityThreshold false (word 1048570) =
        "Understood: " ++ word 1048570 ∧
      answer.response = "\x7b\"_original_size\":1048584,\"_truncated\":true\x7d" ∧
      answer.response ≠ "Understood: " ++ word 1048570 := by
  obtain ⟨answer, answered, source, response⟩ :=
    response_of_word TemplateLegacy.respond (by decide : 10 ≤ 1048570) (by decide)
  have size : (Json.str ("Understood: " ++ word 1048570)).size = 1048584 := by
    have opening : (Json.str "Understood: ").size = 14 := by decide
    rw [size_word, opening]
  have marker : answer.response = (truncationMarker 1048584).compact := by
    have large : ¬ (1048584 : Nat) ≤ sizeLimit := by decide
    rw [response, heldReply, size, if_neg large]
  have written : (truncationMarker 1048584).compact =
      "\x7b\"_original_size\":1048584,\"_truncated\":true\x7d" := by decide +kernel
  refine ⟨engineWith {} TemplateLegacy.respond, answer, withBuiltinGraph_eq_engineWith _ _, answered,
    source, messageText_word (by decide), reply_word (by decide) false, marker.trans written, ?_⟩
  -- The marker is an object, the reply is not.
  intro same
  have first := congrArg (fun text : String => text.toList.head?) (same.symm.trans
    (marker.trans written))
  rw [String.toList_append] at first
  simp at first

end Switchyard.Builtin
