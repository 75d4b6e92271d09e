import Switchyard.Legacy
import Switchyard.Trace.Recorder
import Switchyard.Warning
set_option autoImplicit false

/-! What running a request does besides changing its context, and how that reaches the recorder. -/
namespace Switchyard

inductive Effect where
  | warned (warning : Warning)
  /-- The capability orchestrator was asked. -/
  | asked (request : CapabilityRequest)
  | activated (nodeId : String) (activation : NodeActivation)
  | decided (correlationId : String) (decision : CapabilityDecision)
  | recorded (record : TraceRecord)
  | calledLegacy (call : LegacyCall)

namespace Effect

def warnings (list : List Warning) : List Effect := list.map .warned

def warning? : Effect → Option Warning
  | .warned warning => some warning
  | _ => none

def request? : Effect → Option CapabilityRequest
  | .asked request => some request
  | _ => none

def legacyCall? : Effect → Option LegacyCall
  | .calledLegacy call => some call
  | _ => none

end Effect

namespace Recorder

def apply (now : Timestamp) (recorder : Recorder) : Effect → Recorder
  | .activated nodeId activation => recorder.recordActivation nodeId activation
  | .decided id decision => recorder.recordDecision id decision
  | .recorded record => recorder.record now record
  | .warned _ | .asked _ | .calledLegacy _ => recorder

def applyAll (now : Timestamp) (recorder : Recorder) (effects : List Effect) : Recorder :=
  effects.foldl (apply now) recorder

end Recorder

end Switchyard
