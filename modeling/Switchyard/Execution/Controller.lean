import Switchyard.Execution.Walk
set_option autoImplicit false

/-! What becomes of a request: the answer of the walk, or, when the walk fails, what the strategy
says. Graceful and hybrid fall back on the legacy path and in the end on an apology; strict lets the
error through. A cancelled request never reaches the legacy path. -/
namespace Switchyard

inductive RequestError where
  | walk (error : WalkError)
  | legacy (error : LegacyError)
  deriving Repr, DecidableEq

def RequestError.message : RequestError → String
  | .walk error => error.message
  | .legacy error => error.message

structure Request where
  correlationId : String
  input : Json
  context : Dict Json

def Request.legacyCall (request : Request) : LegacyCall :=
  ⟨request.correlationId, request.input, request.context⟩

abbrev Reply := Except RequestError OrchestrationResult

structure Controller where
  executor : Executor
  legacy : LegacyPath
  strategy : Strategy
  enabled : Bool

/-- The text of a final response: a text as it is, anything else written out, nothing as an empty
text. -/
def responseText : Option Json → String
  | some (.str text) => text
  | some value => value.compact
  | none => ""

def graphResult (now : Timestamp) (correlationId : String) (context : Context) :
    OrchestrationResult where
  correlationId := correlationId
  response := responseText (context.get? Context.Key.finalResponse)
  source := .graph
  fallback := (context.bool? Context.Key.fallback).getD false
  context := some context.values
  timestamp := now

namespace Controller

def prepare (request : Request) : Context :=
  (Context.ofRequest request.correlationId request.input request.context).set
    Context.Key.orchestrationEnabled (.bool true)

def prepareWarnings (request : Request) : List Warning :=
  Warning.ofRequest request.correlationId request.input request.context

/-- Calls the legacy path; tells its answer and the call that was made. -/
def askLegacy (controller : Controller) (now : Timestamp) (call : LegacyCall) :
    Except LegacyError OrchestrationResult × Effect :=
  ((controller.legacy call).map fun response =>
    .ofLegacy call.correlationId { response := response, timestamp := now }, .calledLegacy call)

def answerByLegacy (controller : Controller) (now : Timestamp) (request : Request) :
    Reply × List Effect :=
  match controller.askLegacy now request.legacyCall with
  | (.ok result, call) => (.ok result, [call])
  | (.error error, call) =>
    match controller.strategy with
    | .strict => (.error (.legacy error), [call])
    | .graceful | .hybrid =>
      (.ok (.apology request.correlationId now),
        [call, .warned (.legacyFailed request.correlationId error.message)])

def recover (controller : Controller) (now : Timestamp) (request : Request) (error : WalkError) :
    Reply × List Effect :=
  let failed := Effect.warned
    (.walkFailed request.correlationId error.message controller.strategy.title)
  match controller.strategy with
  | .strict => (.error (.walk error), [failed])
  | .graceful | .hybrid =>
    match error with
    | .cancelled => (.ok (.apology request.correlationId now), [failed])
    | _ =>
      match controller.askLegacy now request.legacyCall with
      | (.ok result, call) => (.ok result, [failed, call])
      | (.error error, call) =>
        (.ok (.apology request.correlationId now),
          [failed, call, .warned (.legacyFailedAfterWalk request.correlationId error.message)])

def conclude (controller : Controller) (now : Timestamp) (request : Request) :
    Except WalkError Context → Reply × List Effect
  | .ok context => (.ok (graphResult now request.correlationId context), [])
  | .error error => controller.recover now request error

def root (controller : Controller) : String := controller.executor.registry.root

/-- Answers a request from beginning to end, waiting for nothing. -/
def run (controller : Controller) (cancelled : Bool) (now : Timestamp) (request : Request) :
    Reply × List Effect :=
  if controller.enabled then
    let (result, walked) :=
      controller.executor.walk cancelled now controller.root (prepare request)
    let (reply, concluded) := controller.conclude now request result
    (reply, Effect.warnings (prepareWarnings request) ++ walked ++ concluded)
  else controller.answerByLegacy now request

end Controller

end Switchyard
