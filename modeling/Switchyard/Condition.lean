import Switchyard.Text.Blank
import Switchyard.Warning
set_option autoImplicit false

/-! Named predicates on contexts. A name that nobody registered is false. -/
namespace Switchyard

abbrev Predicate := Context → Bool

namespace Condition

def orchestrationEnabled : String := "autonomous_orchestration.enabled"
def complexityHigh : String := "complexity.high"
def contentIsQuestion : String := "content.is_question"
def historyPresent : String := "history.present"

def isEnabled : Predicate := fun context =>
  (context.bool? Context.Key.orchestrationEnabled).getD false

def isComplex (threshold : Float) : Predicate := fun context =>
  (context.float? Context.Key.complexityScore).any fun score => threshold < score

def isQuestion : Predicate := fun context => Text.endsInQuestionMark context.content.toList

def hasHistory : Predicate := fun context => !(context.items Context.Key.history).isEmpty

/-- The predicates that are always there unless they are replaced. -/
def builtin (threshold : Float) : Dict Predicate :=
  Dict.ofList [(orchestrationEnabled, isEnabled), (complexityHigh, isComplex threshold),
    (contentIsQuestion, isQuestion), (historyPresent, hasHistory)]

structure Evaluation where
  result : Bool
  reasoning : String
  deriving Repr, DecidableEq

def evaluate (predicates : Dict Predicate) (name : String) (context : Context) : Evaluation :=
  match predicates.get? name with
  | some predicate =>
    let result := predicate context
    ⟨result, "predicate '" ++ name ++ "' evaluated to " ++ toString result⟩
  | none => ⟨false, "unknown predicate '" ++ name ++ "', defaulted to false"⟩

theorem evaluate_result {predicates : Dict Predicate} {name : String} {predicate : Predicate}
    (registered : predicates.get? name = some predicate) (context : Context) :
    (evaluate predicates name context).result = predicate context := by
  rw [evaluate, registered]

def warnings (predicates : Dict Predicate) (name : String) (context : Context) : List Warning :=
  if predicates.contains name then [] else [.unknownPredicate name context.correlationId]

def describe (predicates : Dict Predicate) : String :=
  "ConditionEvaluator \x7b predicates: " ++ Text.listing predicates.keys ++ " \x7d"

end Condition

end Switchyard
