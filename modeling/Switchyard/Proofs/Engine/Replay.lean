import Switchyard.Proofs.Engine.Records
import Switchyard.Proofs.Json.Fields
import Switchyard.Proofs.Message.Question
import Switchyard.Proofs.Trace.Summaries
set_option autoImplicit false

/-! Conditions evaluated once more on what a full summary keeps. The built-in predicates come to the
same as before, only that a question whose end has been cut off is no question. Main statement:
`Engine.conditions_replay`. -/
namespace Switchyard

theorem Text.endsInQuestionMark_cutText (text : String) :
    endsInQuestionMark (Recorder.cutText text).toList =
      (endsInQuestionMark text.toList && !decide (Recorder.maxSummaryChars < text.length)) := by
  by_cases long : Recorder.maxSummaryChars < text.length
  · have dots : "...".toList.reverse = ['.', '.', '.'] := rfl
    have plain : isBlank '.' = false ∧ ('.' == '?') = false := by decide
    rw [decide_eq_true long, Bool.not_true, Bool.and_false, Recorder.cutText_of_long long,
      String.toList_append, endsInQuestionMark_eq, List.reverse_append, dots, List.cons_append,
      asks_cons, plain.1, if_neg Bool.false_ne_true, plain.2]
  · rw [decide_eq_false long, Bool.not_false, Bool.and_true,
      Recorder.cutText_of_short (Nat.not_lt.mp long)]

/-! Predicates on a context that holds what a summary keeps of another one. -/

namespace Condition

/-- A predicate whose outcome is lost in a summary: that the message is a question, if the message
has been cut. -/
def loses (name : String) (part : Context) : Bool :=
  name == contentIsQuestion && decide (Recorder.maxSummaryChars < part.content.length)

section Cut

variable {whole part : Context}

theorem read_eq_of_cut {α : Type} (summed : part.values = Recorder.cutValues whole.values)
    {read : Json → Option α} (noText : ∀ text, read (.str text) = none) (key : String) :
    (part.get? key).bind read = (whole.get? key).bind read := by
  rw [Context.get?, summed, Recorder.get?_cutValues, ← Context.get?]
  cases whole.get? key with
  | none => rfl
  | some value =>
    rw [Option.map_some, Option.bind_some, Option.bind_some]
    cases value with
    | str text => rw [Recorder.cut_str, noText, noText]
    | _ => rfl

theorem content_eq_of_cut (summed : part.values = Recorder.cutValues whole.values) :
    part.content = Recorder.cutText whole.content := by
  have empty : Recorder.cutText "" = "" := Recorder.cutText_of_short (by decide)
  unfold Context.content Context.text?
  rw [Context.get?, summed, Recorder.get?_cutValues, ← Context.get?]
  cases whole.get? Context.Key.content with
  | none => exact empty.symm
  | some value =>
    cases value with
    | str text =>
      rw [Option.map_some, Recorder.cut_str]
      rfl
    | _ => exact empty.symm

theorem isEnabled_eq_of_cut (summed : part.values = Recorder.cutValues whole.values) :
    isEnabled part = isEnabled whole := by
  have same : part.bool? Context.Key.orchestrationEnabled =
      whole.bool? Context.Key.orchestrationEnabled :=
    read_eq_of_cut summed (fun _ => rfl) _
  rw [isEnabled, same, isEnabled]

theorem isComplex_eq_of_cut (summed : part.values = Recorder.cutValues whole.values)
    (threshold : Float) : isComplex threshold part = isComplex threshold whole := by
  have same : part.float? Context.Key.complexityScore =
      whole.float? Context.Key.complexityScore :=
    read_eq_of_cut summed (fun _ => rfl) _
  rw [isComplex, same, isComplex]

theorem hasHistory_eq_of_cut (summed : part.values = Recorder.cutValues whole.values) :
    hasHistory part = hasHistory whole := by
  have same : (part.get? Context.Key.history).bind Json.asList? =
      (whole.get? Context.Key.history).bind Json.asList? :=
    read_eq_of_cut summed (fun _ => rfl) _
  rw [hasHistory, Context.items, same, hasHistory, Context.items]

theorem isQuestion_eq_of_cut (summed : part.values = Recorder.cutValues whole.values) :
    isQuestion part =
      (isQuestion whole && !decide (Recorder.maxSummaryChars < part.content.length)) := by
  rw [isQuestion, isQuestion, content_eq_of_cut summed, Text.endsInQuestionMark_cutText,
    decide_eq_decide.mpr Recorder.lt_length_cutText_iff]

end Cut

theorem builtin_cases {threshold : Float} : ∀ name predicate,
    (builtin threshold).get? name = some predicate →
      (name = orchestrationEnabled ∧ predicate = isEnabled) ∨
        (name = complexityHigh ∧ predicate = isComplex threshold) ∨
        (name = contentIsQuestion ∧ predicate = isQuestion) ∨
        (name = historyPresent ∧ predicate = hasHistory) := by
  refine Dict.forall_get?_insert (Or.inr (Or.inr (Or.inr ⟨rfl, rfl⟩))) ?_
  refine Dict.forall_get?_insert (Or.inr (Or.inr (Or.inl ⟨rfl, rfl⟩))) ?_
  refine Dict.forall_get?_insert (Or.inr (Or.inl ⟨rfl, rfl⟩)) ?_
  refine Dict.forall_get?_insert (Or.inl ⟨rfl, rfl⟩) ?_
  intro name predicate nothing
  cases nothing

/-- A built-in predicate comes to the same on what a summary keeps, unless its outcome is lost. -/
theorem builtin_eq_of_cut {threshold : Float} {name : String} {predicate : Predicate}
    (found : (builtin threshold).get? name = some predicate) {whole part : Context}
    (summed : part.values = Recorder.cutValues whole.values) :
    predicate part = (predicate whole && !loses name part) := by
  have kept : name ≠ contentIsQuestion → (!loses name part) = true := by
    intro different
    rw [loses, beq_eq_false_iff_ne.mpr different]
    rfl
  rcases builtin_cases name predicate found with ⟨rfl, rfl⟩ | ⟨rfl, rfl⟩ | ⟨rfl, rfl⟩ | ⟨rfl, rfl⟩
  · rw [isEnabled_eq_of_cut summed, kept (by decide), Bool.and_true]
  · rw [isComplex_eq_of_cut summed, kept (by decide), Bool.and_true]
  · rw [isQuestion_eq_of_cut summed, loses, beq_self_eq_true, Bool.true_and]
  · rw [hasHistory_eq_of_cut summed, kept (by decide), Bool.and_true]

end Condition

/-! Records. -/

/-- What a condition decided can be evaluated once more from what its record keeps, if its predicate
is one of the built-in ones: in any context with the values of the inputs summary the predicate comes
to what has been recorded, unless that is lost. -/
def TraceRecord.Replays (predicates : Dict Predicate) (record : TraceRecord) : Prop :=
  record.nodeKind = .condition →
    ∃ made values, record.decision = some made ∧ record.inputsSummary.asDict? = some values ∧
      ∀ threshold predicate,
        (Condition.builtin threshold).get? made.predicate = some predicate →
        predicates.get? made.predicate = some predicate →
        ∀ again : Context, again.values = values →
          (Condition.evaluate predicates made.predicate again).result =
            (made.result && !Condition.loses made.predicate again)

theorem Executor.recordOf_replays {executor : Executor} (full : executor.traceMode = .full)
    (node : DecisionNode) (before : Context) (startedAt now : Timestamp)
    (result : Except NodeError NodeOutcome) :
    (executor.recordOf node before startedAt now (executor.decision? node before) result).Replays
      executor.predicates := by
  intro condition
  change node.kind = .condition at condition
  have summary : (Recorder.summarize executor.traceMode before.values).asDict? =
      some (Recorder.cutValues before.values) := by
    rw [full, Recorder.summarize_full, Json.asDict?_ofDict]
  cases behavior : node.behavior with
  | condition name whenTrue whenFalse =>
    have decided : executor.decision? node before = some ⟨name,
        (Condition.evaluate executor.predicates name before).result,
        (Condition.evaluate executor.predicates name before).reasoning⟩ := by
      rw [decision?, behavior]
    refine ⟨_, _, decided, summary, fun threshold predicate found registered again summed => ?_⟩
    dsimp only at found registered ⊢
    rw [Condition.evaluate_result registered, Condition.evaluate_result registered]
    exact Condition.builtin_eq_of_cut found summed
  | _ =>
    rw [DecisionNode.kind, behavior] at condition
    cases condition

namespace Engine

/-- In full mode every node leaves one record that replays, and so do all records of all traces of an
engine: on the values of the inputs summary a built-in predicate comes to the recorded result, only
that a question longer than a summary keeps is taken for none. -/
theorem conditions_replay {executor : Executor} (full : executor.traceMode = .full) :
    (∀ (cancelled : Bool) (now : Timestamp) (node : DecisionNode) (before : Context),
      ∃ record, (executor.execute cancelled now node before).2.filterMap Effect.record? = [record] ∧
        record.nodeKind = node.kind ∧ record.Replays executor.predicates) ∧
    ∀ engine : Engine, engine.controller.executor = executor →
      ∀ (events : List (Timestamp × Event)) (id : String),
      ∀ record ∈ (engine.run engine.initial events).recorder.traces id,
        record.Replays executor.predicates := by
  constructor
  · intro cancelled now node before
    obtain ⟨startedAt, endedAt, -, one⟩ := (executor.execute_done cancelled now node before).record
    exact ⟨_, one, rfl, executor.recordOf_replays full node before startedAt endedAt _⟩
  · intro engine same events id record inside
    obtain ⟨written, time, ⟨node, before, startedAt, endedAt, result, isRecord⟩, rfl⟩ :=
      exists_written events id inside
    rw [same] at isRecord
    subst isRecord
    exact executor.recordOf_replays full node before startedAt endedAt result

/-! A node that asks whether the message is a question. -/

namespace Sample

def inquiry : DecisionNode where
  id := "ask"
  behavior := .condition Condition.contentIsQuestion (some "answer") none

def inquiries : Registry where
  dataFlow := Dict.empty
  decision := Dict.ofList [("ask", inquiry),
    ("answer", { id := "answer", behavior := .action ⟨.configure, "", []⟩ })]
  root := "ask"
  hasCycle := false

def inquirer : Engine :=
  Engine.new {} inquiries (Condition.builtin 0.5) Dict.empty
    (fun _ => { outcome := .error (.unavailable "nobody to ask") }) (fun _ => .ok "")

def saying (text : String) : Context :=
  ⟨"r", Dict.ofList [(Context.Key.content, .str text)]⟩

end Sample

theorem short_question_replays :
    let executor := Sample.inquirer.controller.executor
    let trace := (Sample.inquirer.run Sample.inquirer.initial
      [(⟨0, false⟩, .start ⟨"r", .str "Who?", Dict.empty⟩), (⟨1, false⟩, .step 0),
        (⟨2, false⟩, .step 0)]).recorder.traces "r"
    (∃ record, (executor.execute false default Sample.inquiry (Sample.saying "Who?")).2.filterMap
        Effect.record? = [record] ∧ record.Replays executor.predicates) ∧
      ∃ record ∈ trace, ∃ made values, record.decision = some made ∧ made.result = true ∧
        record.inputsSummary.asDict? = some values ∧
        (Condition.evaluate executor.predicates made.predicate ⟨"r", values⟩).result = true := by
  intro executor trace
  have full : executor.traceMode = .full := rfl
  obtain ⟨record, one, -, replays⟩ :=
    (conditions_replay full).1 false default Sample.inquiry (Sample.saying "Who?")
  refine ⟨⟨record, one, replays⟩, ?_⟩
  have inside : ∃ record ∈ trace, record.nodeKind = .condition ∧
      record.decision.map (fun made => (made.predicate, made.result)) =
        some (Condition.contentIsQuestion, true) ∧
      record.inputsSummary.asDict?.map (fun values => (Context.mk "r" values).content.length) =
        some 4 :=
    ⟨_, List.mem_of_getElem? (i := 0) rfl, rfl, rfl, rfl⟩
  obtain ⟨record, inside, condition, asked, length⟩ := inside
  obtain ⟨made, values, decided, summary, again⟩ :=
    (conditions_replay full).2 Sample.inquirer rfl _ "r" record inside condition
  rw [decided] at asked
  rw [summary] at length
  obtain ⟨name, result⟩ := Prod.mk.inj (Option.some.inj asked)
  have four : (Context.mk "r" values).content.length = 4 := Option.some.inj length
  have kept : Condition.loses made.predicate ⟨"r", values⟩ = false := by
    rw [Condition.loses, four]
    exact Bool.and_false _
  have found : (Condition.builtin 0.5).get? made.predicate = some Condition.isQuestion := by
    rw [name]
    rfl
  refine ⟨record, inside, made, values, decided, result, summary, ?_⟩
  rw [again 0.5 Condition.isQuestion found found ⟨"r", values⟩ rfl, result, kept]
  rfl

/-- A question that is longer than a summary keeps has been recorded as one, but what the record keeps
of it is none. -/
theorem long_question_does_not_replay :
    let executor := Sample.inquirer.controller.executor
    let text := String.ofList (List.replicate 200 'a' ++ ['?'])
    ∃ record made values,
      (executor.execute false default Sample.inquiry (Sample.saying text)).2.filterMap
        Effect.record? = [record] ∧
      record.decision = some made ∧ made.predicate = Condition.contentIsQuestion ∧
      made.result = true ∧ record.inputsSummary.asDict? = some values ∧
      ∀ again : Context, again.values = values →
        (Condition.evaluate executor.predicates made.predicate again).result = false := by
  intro executor text
  have registered : executor.predicates.get? Condition.contentIsQuestion =
      some Condition.isQuestion := rfl
  have question : Condition.isQuestion (Sample.saying text) = true := by
    change Text.endsInQuestionMark (String.ofList _).toList = true
    rw [String.toList_ofList, Text.endsInQuestionMark_eq, List.reverse_append]
    rfl
  have long : Recorder.maxSummaryChars < text.length := by
    rw [String.length_ofList, List.length_append, List.length_replicate]
    decide
  refine ⟨_, _, _, rfl, rfl, rfl, ?_, Json.asDict?_ofDict (Recorder.cutValues _),
    fun again summed => ?_⟩
  · exact (Condition.evaluate_result registered _).trans question
  · have cut : again.content = Recorder.cutText text :=
      @Condition.content_eq_of_cut (Sample.saying text) again summed
    refine (Condition.evaluate_result registered again).trans ?_
    rw [Condition.isQuestion, cut, Text.endsInQuestionMark_cutText, decide_eq_true long]
    exact Bool.and_false _

end Engine

end Switchyard
