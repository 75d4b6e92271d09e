import Switchyard.Capability.Heuristic
import Switchyard.Condition
import Switchyard.Leaf
import Switchyard.Legacy
set_option autoImplicit false

/-! Scripted stand-ins: leaves, predicates, a capability orchestrator and a legacy path whose
replies are written down beforehand. -/
namespace Switchyard.Rehearsal

inductive LeafScript where
  | outputs (outputs : Dict Json)
  | fail (reason : String)
  /-- Tells which of some keys were in the context. -/
  | saw (key : String) (keys : List String)
  /-- Shows the parameters that the leaf was given. -/
  | params (key : String)
  | copy (key source : String)
  /-- Adds a value to the end of a list. -/
  | append (key : String) (value : Json)
  /-- Takes some time, then fails or answers. -/
  | sleep (ms : Nat) (outputs : Dict Json) (failure : Option String)

namespace LeafScript

def single (key : String) (value : Json) : LeafReply :=
  { outcome := .ok (Dict.ofList [(key, value)]) }

def handler (script : LeafScript) : LeafHandler := fun _ context =>
  match script with
  | .outputs given => { outcome := .ok given }
  | .fail reason => { outcome := .error (.failed reason) }
  | .saw key keys =>
    { outcome := .ok (Dict.ofList [(key, .bool true),
        (key ++ "_saw", Json.texts (keys.filter context.contains))]) }
  | .params key => single key ((context.get? Context.Key.actionParameters).getD .null)
  | .copy key source => single key ((context.get? source).getD .null)
  | .append key value => single key (.arr (context.items key ++ [value]))
  | .sleep ms given failure =>
    { delayMs := ms
      outcome := match failure with
        | some reason => .error (.failed reason)
        | none => .ok given }

end LeafScript

inductive PredicateScript where
  | constant (result : Bool)
  | has (key : String)
  | equals (key : String) (value : Json)

def PredicateScript.predicate (script : PredicateScript) : Predicate := fun context =>
  match script with
  | .constant result => result
  | .has key => context.contains key
  | .equals key value =>
    match context.get? key with
    | some found => found == value
    | none => false

inductive CapabilityScript where
  | heuristic
  | fixed (decision : CapabilityDecision)
  | failing (error : CapabilityError)

/-- The reply of a scripted orchestrator, always after the same delay. -/
def CapabilityScript.reply (script : CapabilityScript) (delayMs : Nat)
    (request : CapabilityRequest) : CapabilityReply where
  delayMs := delayMs
  outcome := match script with
    | .heuristic => Heuristic.decide request
    | .fixed decision => .ok decision
    | .failing error => .error error

inductive LegacyScript where
  | template
  /-- Answers with the input written out. -/
  | echo
  | fail (reason : String)

def LegacyScript.path (script : LegacyScript) : LegacyPath := fun call =>
  match script with
  | .template => TemplateLegacy.respond call
  | .echo => .ok ("legacy: " ++ call.input.compact)
  | .fail reason => .error (.failed reason)

/-- Scripted entries come after the entries that are there and replace them. -/
def overlay {α β : Type} (base : Dict α) (build : β → α) (scripts : Dict β) : Dict α :=
  scripts.entries.foldl (fun dict entry => dict.insert entry.1 (build entry.2)) base

end Switchyard.Rehearsal
