import Switchyard.Builtin.Graph
import Switchyard.Execution.Controller
set_option autoImplicit false

/-! The engine runs many requests side by side. Requests advance one step at a time in any order; at
most one request of each correlation id is in flight, and a newer one cancels the older. Whoever
starts a request also ends it, which takes its entry out of the table, unless a newer request owns
it by then, and releases its trace. -/
namespace Switchyard

structure Engine where
  settings : Settings
  controller : Controller

inductive Phase where
  | arrived
  | walking (stage : Stage)

structure LiveRequest where
  seq : Nat
  request : Request
  cancelled : Bool
  phase : Phase

namespace Engine

structure State where
  live : List LiveRequest := []
  /-- For each correlation id in flight the request that owns it. -/
  inFlight : Dict Nat := Dict.empty
  recorder : Recorder
  nextSeq : Nat := 0
  stopped : Bool := false

inductive Event where
  | start (request : Request)
  /-- One request takes a step. -/
  | step (seq : Nat)
  /-- One request is given up by its caller. -/
  | drop (seq : Nat)
  | cancel (correlationId : String)
  | shutdown
  | purge (cutoff : Timestamp)

def new (settings : Settings) (registry : Registry) (predicates : Dict Predicate)
    (handlers : Dict LeafHandler) (capability : CapabilityRequest → CapabilityReply)
    (legacy : LegacyPath) : Engine where
  settings := settings
  controller := {
    executor := {
      registry := registry
      predicates := predicates
      leaves := ⟨handlers, settings.validateInputs⟩
      capability := capability
      traceMode := settings.traceMode
      monitorPerformance := settings.monitorPerformance
      capabilityTimeoutMs := settings.capabilityTimeoutMs }
    legacy := legacy
    strategy := settings.strategy
    enabled := settings.enabled }

def initial (engine : Engine) : State := { recorder := Recorder.ofSettings engine.settings }

/-- One step of a request: its reply once it has ended, and otherwise its next phase. -/
def advance (engine : Engine) (now : Timestamp) (live : LiveRequest) :
    (Reply ⊕ Phase) × List Effect :=
  match live.phase with
  | .arrived =>
    if engine.controller.enabled then
      (.inr (.walking (Walk.start engine.controller.root (Controller.prepare live.request))),
        Effect.warnings (Controller.prepareWarnings live.request))
    else
      let (reply, effects) := engine.controller.answerByLegacy now live.request
      (.inl reply, effects)
  | .walking (.ended result) =>
    let (reply, effects) := engine.controller.conclude now live.request result
    (.inl reply, effects)
  | .walking stage =>
    let (stage, effects) := stage.advance engine.controller.executor live.cancelled now
    (.inr (.walking stage), effects)

namespace State

def find? (state : State) (seq : Nat) : Option LiveRequest :=
  state.live.find? fun live => live.seq = seq

def mapLive (state : State) (change : LiveRequest → LiveRequest) : State :=
  { state with live := state.live.map change }

def cancelSeq (state : State) (seq : Nat) : State :=
  state.mapLive fun live => if live.seq = seq then { live with cancelled := true } else live

def setPhase (state : State) (seq : Nat) (phase : Phase) : State :=
  state.mapLive fun live => if live.seq = seq then { live with phase := phase } else live

/-- Takes a request out: its entry if it still owns it, and its hold on the trace. -/
def release (state : State) (live : LiveRequest) : State :=
  let id := live.request.correlationId
  { state with
    live := state.live.filter fun other => other.seq ≠ live.seq
    inFlight := if state.inFlight.get? id = some live.seq then state.inFlight.erase id
      else state.inFlight
    recorder := state.recorder.finishRequest id }

/-- Cancels the request in flight under an id; also tells whether there was one. -/
def cancel (state : State) (correlationId : String) : State × Bool :=
  match state.inFlight.get? correlationId with
  | some seq => (state.cancelSeq seq, true)
  | none => (state, false)

/-- Puts a request in, after any earlier request of the same id has been cancelled. -/
def start (state : State) (request : Request) : State × List Effect :=
  let id := request.correlationId
  let entry : LiveRequest := ⟨state.nextSeq, request, state.stopped, .arrived⟩
  let (state, replaced) := state.cancel id
  ({ state with
      live := state.live ++ [entry]
      inFlight := state.inFlight.insert id entry.seq
      recorder := state.recorder.beginRequest id
      nextSeq := state.nextSeq + 1 }, if replaced then [.warned .requestReplaced] else [])

def shutdown (state : State) : State :=
  { state.mapLive (fun live => { live with cancelled := true }) with stopped := true }

end State

structure Happening where
  effects : List Effect := []
  /-- The request that ended, and its reply. -/
  ended : Option (Nat × Reply) := none

/-- What is noticed when a request ends. -/
def closing : Reply → List Effect
  | .ok _ => []
  | .error error => [.warned (.requestFailed error.message)]

def stepSeq (engine : Engine) (now : Timestamp) (state : State) (seq : Nat) : State × Happening :=
  match state.find? seq with
  | none => (state, {})
  | some live =>
    match engine.advance now live with
    | (.inr phase, effects) =>
      ({ state.setPhase seq phase with recorder := state.recorder.applyAll now effects },
        { effects := effects })
    | (.inl reply, effects) =>
      let effects := effects ++ closing reply
      ({ state with recorder := state.recorder.applyAll now effects }.release live,
        { effects := effects, ended := some (seq, reply) })

def handle (engine : Engine) (now : Timestamp) (state : State) : Event → State × Happening
  | .start request =>
    let (state, effects) := state.start request
    (state, { effects := effects })
  | .step seq => engine.stepSeq now state seq
  | .drop seq =>
    match state.find? seq with
    | some live => (state.release live, {})
    | none => (state, {})
  | .cancel correlationId => ((state.cancel correlationId).1, {})
  | .shutdown => (state.shutdown, {})
  | .purge cutoff => ({ state with recorder := (state.recorder.purgeBefore cutoff).1 }, {})

/-- An upper bound on the steps that a new request takes to its end. -/
def maxSteps (engine : Engine) : Nat := 2 * engine.controller.executor.registry.decision.size + 4

/-- Steps one request until it has ended, waiting for nothing. -/
def runToEnd (engine : Engine) (now : Timestamp) (seq : Nat) :
    Nat → State → State × List Effect × Option Reply
  | 0, state => (state, [], none)
  | fuel + 1, state =>
    match engine.stepSeq now state seq with
    | (state, { effects, ended := some (_, reply) }) => (state, effects, some reply)
    | (state, { effects, ended := none }) =>
      let (state, later, reply) := runToEnd engine now seq fuel state
      (state, effects ++ later, reply)

/-- Runs one request from its start to its end. -/
def wire (engine : Engine) (now : Timestamp) (state : State) (request : Request) :
    State × List Effect × Option Reply :=
  let seq := state.nextSeq
  let (state, started) := state.start request
  let (state, effects, reply) := engine.runToEnd now seq engine.maxSteps state
  (state, started ++ effects, reply)

def metrics (engine : Engine) (state : State) : SystemMetrics where
  nodeCount := UInt64.ofNat engine.controller.executor.registry.dataFlow.size
  treeSize := UInt64.ofNat engine.controller.executor.registry.decision.size
  activeTraceCount := UInt64.ofNat state.recorder.traceCount

/-- The engine as it shows itself in a listing. -/
def describe (engine : Engine) (state : State) : String :=
  "Orchestrator \x7b config: " ++ engine.settings.describe ++ ", in_flight: " ++
    toString state.inFlight.size ++ ", .. \x7d"

def withBuiltinGraph (settings : Settings) (capability : CapabilityRequest → CapabilityReply)
    (legacy : LegacyPath) : Except RegistryError Engine :=
  Builtin.registry.map fun registry =>
    new settings registry (Condition.builtin settings.complexityThreshold) Builtin.handlers
      capability legacy

end Engine

end Switchyard
