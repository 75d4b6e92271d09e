import Switchyard.Capability.Heuristic
import Switchyard.CommandLine.Arguments
import Switchyard.CommandLine.Listing
import Switchyard.DataDirectory
import Switchyard.Engine
set_option autoImplicit false

/-! Running a command on a data directory. The report tells what is printed, or the error that ends
the call, and what was warned of on the way. -/
namespace Switchyard.CommandLine

inductive Output where
  | lines (lines : List String)
  | json (value : Json)

structure Report where
  result : Except String Output
  warnings : List Warning := []

/-! Correlation ids for requests that are given none: 128 bits that begin with the time, so that
later ids sort behind earlier ones, and end with chance. -/

/-- The last digits, so many, of a number in hexadecimal. -/
def hexadecimal : Nat → Nat → List Char
  | 0, _ => []
  | width + 1, number => hexadecimal width (number / 16) ++ [Json.hexDigit (number % 16)]

/-- The id of a time in milliseconds since 1970 and a random number: 48 bits of time, the version,
12 random bits, the variant, 62 random bits. -/
def freshId (millis random : Nat) : String :=
  let time := hexadecimal 12 millis
  let version := '7' :: hexadecimal 3 random
  let variant := Json.hexDigit (8 + random / 4096 % 4) :: hexadecimal 15 (random / 16384)
  "-".intercalate
    ([time.take 8, time.drop 8, version, variant.take 4, variant.drop 4].map String.ofList)

/-! Sites and sessions. -/

structure Site where
  files : DataDirectory
  graphPath : String
  /-- The correlation id of a request that is given none. -/
  freshId : String
  now : Timestamp

/-- An engine that has been set up, and whether its graph came from a file. -/
structure Session where
  engine : Engine
  ownGraph : Bool

def capability (request : CapabilityRequest) : CapabilityReply :=
  { outcome := Heuristic.decide request }

def RunOptions.adjust (options : RunOptions) (settings : Settings) : Settings :=
  { settings with
    strategy := options.strategy.getD settings.strategy
    traceMode := options.traceMode.getD settings.traceMode
    enabled := settings.enabled && !options.disable }

/-- Puts an engine on the graph in the file, or on the built-in one when there is no file. -/
def Session.start (site : Site) (settings : Settings) : Except String Session :=
  let refused (error : RegistryError) : Except String Session := .error error.message
  match GraphDefinition.ofFile site.files.graph with
  | .error error => .error (error.message site.graphPath)
  | .ok none =>
    match Engine.withBuiltinGraph settings capability TemplateLegacy.respond with
    | .ok engine => .ok ⟨engine, false⟩
    | .error error => refused error
  | .ok (some graph) =>
    match Registry.ofDefinition graph with
    | .ok registry =>
      .ok ⟨Engine.new settings registry (Condition.builtin settings.complexityThreshold)
        Builtin.handlers capability TemplateLegacy.respond, true⟩
    | .error error => refused error

def Session.registry (session : Session) : Registry := session.engine.controller.executor.registry

/-- Reads the settings, adjusts them, and goes on with an engine that has them. -/
def withSession (site : Site) (adjust : Settings → Settings) (act : Session → Report) : Report :=
  let (settings, warnings) := Settings.ofFile site.files.settings
  match Session.start site (adjust settings) with
  | .error message => ⟨.error message, warnings⟩
  | .ok session =>
    let report := act session
    ⟨report.result, warnings ++ session.registry.warnings ++ report.warnings⟩

def RunOptions.request (options : RunOptions) (freshId : String) : Request where
  correlationId := options.correlationId.getD freshId
  input := Json.object [(Context.Key.content, .str options.content)]
  context := Dict.ofList
    ((options.user.map fun user => (Context.Key.userId, Json.str user)).toList ++
      (options.channel.map fun channel => (Context.Key.channelId, Json.str channel)).toList)

def showResult (json quiet showTrace : Bool) (recorder : Recorder) (result : OrchestrationResult) :
    Output :=
  let id := result.correlationId
  if json then
    let trace := if showTrace then
        [("traceability", (recorder.completeTraceability id).toJson)] else []
    .json (Json.object ([("result", result.toJson)] ++ trace))
  else if quiet then .lines [result.response]
  else .lines (resultLines result ++
    (if showTrace then traceLines (recorder.traces id) else []))

def runMessage (site : Site) (json quiet : Bool) (options : RunOptions) : Report :=
  withSession site options.adjust fun session =>
    let request := options.request site.freshId
    let id := request.correlationId
    let (reply, effects) := session.engine.controller.run false site.now request
    let recorder := (((Recorder.ofSettings session.engine.settings).beginRequest id).applyAll
      site.now effects).finishRequest id
    let warnings := effects.filterMap Effect.warning?
    match reply with
    | .ok result => ⟨.ok (showResult json quiet options.showTrace recorder result), warnings⟩
    | .error error => ⟨.error error.message, warnings ++ [.requestFailed error.message]⟩

/-- Shows the graph; asking for silence changes nothing here. -/
def showGraph (site : Site) (json : Bool) : Report :=
  withSession site id fun session =>
    let origin := if session.ownGraph then "from " ++ site.graphPath else "built-in"
    if json then { result := .ok (.json session.registry.toDefinition.toJson) }
    else { result := .ok (.lines (graphLines session.registry origin)) }

def Invocation.perform (invocation : Invocation) (site : Site) : Report :=
  match invocation.command with
  | .run options => runMessage site invocation.json invocation.quiet options
  | .graph => showGraph site invocation.json
  | .completions shell => { result := .ok (.lines [shell.completion]) }

end Switchyard.CommandLine
