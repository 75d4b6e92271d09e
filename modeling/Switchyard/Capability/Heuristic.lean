import Switchyard.Capability.Basic
set_option autoImplicit false

/-! A capability orchestrator that chooses from the request alone. -/
namespace Switchyard.Heuristic

def name : String := "heuristic"

/-- Requests that have to be answered faster than this get no deep analysis. -/
def fastPathMs : UInt64 := 1000

def isEnhanced (request : CapabilityRequest) : Bool :=
  request.loadHints.qualityMode == some "enhanced"

def select (request : CapabilityRequest) : List String :=
  let fast := request.loadHints.maxLatencyMs.any fun limit => limit < fastPathMs
  let chosen :=
    (if request.intents.contains "question" then ["reasoning"] else []) ++
    (if request.history.isEmpty then [] else ["memory"]) ++
    (if isEnhanced request && !fast then ["deep_analysis"] else [])
  if chosen.isEmpty then ["conversation"] else chosen

/-- More capabilities make for more confidence, up to a limit. -/
def confidence (count : Nat) : Float :=
  let growing := 0.6 + 0.1 * Float.ofNat count
  if growing < 0.95 then growing else 0.95

def decide (request : CapabilityRequest) : Except CapabilityError CapabilityDecision :=
  if request.loadHints.budget.any fun budget => budget ≤ 0.0 then
    .error (.rejected "budget exhausted")
  else
    let selected := select request
    .ok {
      selected := selected
      confidence := confidence selected.length
      quality := if isEnhanced request then 0.9 else 0.75 }

end Switchyard.Heuristic
