import Switchyard.Context
import Switchyard.Outcome
import Switchyard.Text.Blank
set_option autoImplicit false

/-! The legacy path: an answer without any graph, used when orchestration is off or has failed. -/
namespace Switchyard

inductive LegacyError where
  | failed (reason : String)
  deriving Repr, DecidableEq

def LegacyError.message : LegacyError → String
  | .failed reason => "legacy path failed: " ++ reason

structure LegacyCall where
  correlationId : String
  input : Json
  context : Dict Json

abbrev LegacyPath := LegacyCall → Except LegacyError String

namespace TemplateLegacy

/-- The text of an input: the input itself or its content. -/
def messageText : Json → String
  | .str text => text
  | .obj fields => ((Dict.lookup Context.Key.content fields).bind Json.asText?).getD ""
  | _ => ""

/-- Thanks for a message, or greets when there is none. -/
def respond : LegacyPath := fun call =>
  let text := Text.trim (messageText call.input).toList
  if text.isEmpty then .ok "I'm here whenever you need me."
  else .ok ("Thanks for your message: \"" ++ String.ofList text ++ "\"")

end TemplateLegacy

end Switchyard
