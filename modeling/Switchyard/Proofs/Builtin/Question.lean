import Switchyard.Proofs.Builtin.Reply
import Switchyard.Proofs.Message.Layout
import Switchyard.Proofs.Message.Score
set_option autoImplicit false

/-! Whether a message is a question is decided in four places: by a predicate, by the analysis,
among the intents and in the score. Each trims the message in a way of its own and one looks at it
in lower case. Main statement: `Builtin.questions_agree`, all of them decide alike. -/
namespace Switchyard

namespace Builtin

open Context

/-- What the analysis has found out about a message under a name. -/
def finding? (outputs : Dict Json) (name : String) : Option Json :=
  (outputs.get? Key.analyzedMessage).bind (·.field? name)

theorem finding?_analysis (text : String) :
    finding? (analysis text) "wordCount" = some (.int (Message.wordCount text)) ∧
      finding? (analysis text) "isQuestion" = some (.bool (Text.endsIn '?' text.toList)) := by
  rw [finding?, finding?, (get?_analysis text).2.1]
  change (Dict.ofList _).get? "wordCount" = _ ∧ (Dict.ofList _).get? "isQuestion" = _
  simp [Dict.ofList, Dict.get?_insert]

/-- What the analysis finds out about a message is found in its words. -/
structure Finds (message : String) (outputs : Dict Json) : Prop where
  wordCount : finding? outputs "wordCount" = some (.int (Message.wordCount message))
  isQuestion : finding? outputs "isQuestion" = some (.bool (Message.isQuestion message))
  score : outputs.get? Key.complexityScore = some (Json.ofFloat (Message.complexity message))
  intents : outputs.get? Key.intents = some (Json.texts (Message.intents message))

theorem Finds.of_words {first second : String} {outputs : Dict Json} (finds : Finds first outputs)
    (same : Message.words first = Message.words second) : Finds second outputs := by
  constructor
  · rw [finds.wordCount, Message.wordCount_eq_of_words same]
  · rw [finds.isQuestion, Message.isQuestion_eq_of_words same]
  · rw [finds.score, Message.complexity_eq_of_words same]
  · rw [finds.intents, Message.intents_eq_of_words same]

theorem finds_analysis_trimmed (message : String) :
    Finds message (analysis (Message.trimmed message)) := by
  have same := Message.words_trimmed message
  obtain ⟨words, asks⟩ := finding?_analysis (Message.trimmed message)
  obtain ⟨-, -, score⟩ := get?_analysis (Message.trimmed message)
  obtain ⟨intents, -⟩ := get?_analysis_others (Message.trimmed message)
  refine Finds.of_words ⟨words, ?_, score, intents⟩ same
  rw [asks, Message.endsIn_trimmed, Message.isQuestion_eq_of_words same]

/-- The leaf that analyses messages answers a context with these outputs. -/
def Reports (context : Context) (outputs : Dict Json) : Prop :=
  ∃ handler, handlers.get? inputAnalysis = some handler ∧
    ∀ leaf, handler leaf context = { outcome := .ok outputs }

theorem content_eq {context : Context} {message : String}
    (told : context.get? Key.content = some (.str message)) : context.content = message := by
  rw [content, text?, told]
  rfl

theorem reports_analysis {context : Context} {message : String}
    (told : context.get? Key.content = some (.str message)) :
    Reports context (analysis (Message.trimmed message)) := by
  refine ⟨immediate analyse, rfl, fun leaf => ?_⟩
  rw [immediate, analyse, content_eq told]

theorem asked_eq {threshold : Float} {context : Context} {message : String}
    (told : context.get? Key.content = some (.str message)) :
    (Condition.evaluate (Condition.builtin threshold) Condition.contentIsQuestion context).result =
      Message.isQuestion message := by
  have registered : (Condition.builtin threshold).get? Condition.contentIsQuestion =
      some Condition.isQuestion := by
    simp [Condition.builtin, Dict.ofList, Dict.get?_insert, Condition.orchestrationEnabled,
      Condition.complexityHigh, Condition.contentIsQuestion, Condition.historyPresent]
  rw [Condition.evaluate_result registered, Condition.isQuestion, content_eq told]
  rfl

def Lists (outputs : Dict Json) (key text : String) : Prop :=
  ∃ items, outputs.get? key = some (.arr items) ∧ .str text ∈ items

theorem lists_iff {outputs : Dict Json} {key : String} {texts : List String}
    (told : outputs.get? key = some (Json.texts texts)) (text : String) :
    Lists outputs key text ↔ text ∈ texts := by
  unfold Lists
  rw [told, Json.texts]
  simp

theorem wordCount_le_of_fits {message : String} (fits : (Json.str message).size ≤ sizeLimit) :
    Message.wordCount message ≤ 2 ^ 20 := by
  rw [← Message.wordCount_eq_of_words (Message.words_trimmed message)]
  exact Nat.le_trans (Message.wordCount_trimmed_le message) fits

/-- All that decide whether a message is a question decide alike: the predicate, the analysis, the
intents and the score. The score of a message that fits into a context shows whether the signal of a
question went into it; a longer one may hide the signal behind its rounding. -/
theorem questions_agree (threshold : Float) {context : Context} {message : String}
    (told : context.get? Key.content = some (.str message)) :
    let holds := (Condition.evaluate (Condition.builtin threshold) Condition.contentIsQuestion
      context).result = true
    ∃ outputs, Reports context outputs ∧
      (holds ↔ finding? outputs "isQuestion" = some (.bool true)) ∧
      (holds ↔ Lists outputs Key.intents "question") ∧
      (holds ↔ Message.questionPart message = Message.questionSignal) ∧
      outputs.get? Key.complexityScore = some (Json.ofFloat (Message.complexity message)) ∧
      Message.complexity message = Message.scoreOf
        (Float.ofNat (Message.wordCount message) + Message.questionPart message) ∧
      ((Json.str message).size ≤ sizeLimit →
        (holds ↔ Message.complexity message = Message.scoreOf
          (Float.ofNat (Message.wordCount message) + Message.questionSignal))) := by
  intro holds
  have asked : holds ↔ Message.isQuestion message = true := by
    dsimp only [holds]
    rw [asked_eq told]
  have finds := finds_analysis_trimmed message
  refine ⟨_, reports_analysis told, ?_, ?_, ?_, finds.score, Message.complexity_eq_scoreOf message,
    fun fits => ?_⟩
  · rw [asked, finds.isQuestion, Option.some.injEq, Json.bool.injEq]
  · rw [asked, lists_iff finds.intents, Message.question_mem_intents]
  · rw [asked, Message.questionPart_eq_iff]
  · rw [asked, Message.complexity_eq_iff (wordCount_le_of_fits fits)]

namespace Sample

/-- A question that ends in blanks, one of them not an ASCII character. -/
def loose : String := "ΤΊ ΘΈΛΕΙΣ?\u3000\n"

end Sample

theorem loose_questions_agree :
    let context : Context := ⟨"loose", Dict.ofList [(Key.content, .str Sample.loose)]⟩
    context.get? Key.content = some (.str Sample.loose) ∧
    (Condition.evaluate (Condition.builtin 0.7) Condition.contentIsQuestion context).result = true ∧
    ∃ outputs, Reports context outputs ∧
      finding? outputs "isQuestion" = some (.bool true) ∧
      Lists outputs Key.intents "question" ∧
      Message.complexity Sample.loose = Message.scoreOf
        (Float.ofNat (Message.wordCount Sample.loose) + Message.questionSignal) := by
  intro context
  have told : context.get? Key.content = some (.str Sample.loose) := rfl
  have asked : (Condition.evaluate (Condition.builtin 0.7) Condition.contentIsQuestion
      context).result = true := by
    rw [asked_eq told]
    decide +kernel
  obtain ⟨outputs, reports, found, listed, -, -, -, scored⟩ := questions_agree 0.7 told
  exact ⟨told, asked, outputs, reports, found.mp asked, listed.mp asked,
    (scored (by decide +kernel)).mp asked⟩

end Builtin

end Switchyard
