import Switchyard.Settings
set_option autoImplicit false

/-! The arguments of a call and the command they spell. They are read from left to right, and the
first that asks for help, asks for the version or does not fit decides the outcome. -/
namespace Switchyard.CommandLine

inductive Shell where
  | bash
  | elvish
  | fish
  | powershell
  | zsh
  deriving Repr, DecidableEq

namespace Shell

def all : List Shell := [.bash, .elvish, .fish, .powershell, .zsh]

def name : Shell → String
  | .bash => "bash"
  | .elvish => "elvish"
  | .fish => "fish"
  | .powershell => "powershell"
  | .zsh => "zsh"

end Shell

def commandNames : List String := ["run", "graph", "completions", "help"]

/-- A line that teaches a shell the names of the commands. -/
def Shell.completion (shell : Shell) : String :=
  let words := " ".intercalate commandNames
  match shell with
  | .bash => "complete -W \"" ++ words ++ "\" rgraph"
  | .elvish => "set edit:completion:arg-completer[rgraph] = \x7b|@args| put " ++ words ++ " \x7d"
  | .fish => "complete -c rgraph -f -a \"" ++ words ++ "\""
  | .powershell =>
    "Register-ArgumentCompleter -Native -CommandName rgraph -ScriptBlock \x7b \"" ++ words ++
      "\".Split(\" \") \x7d"
  | .zsh => "compctl -k \"(" ++ words ++ ")\" rgraph"

inductive Scope where
  | top
  | run
  | graph
  | completions
  deriving Repr, DecidableEq

inductive Flag where
  | json
  | quiet
  | verbose
  | logJson
  | otel
  | help
  | version
  | showTrace
  | disable
  deriving Repr, DecidableEq

namespace Flag

def all : List Flag :=
  [.json, .quiet, .verbose, .logJson, .otel, .help, .version, .showTrace, .disable]

def name : Flag → String
  | .json => "json"
  | .quiet => "quiet"
  | .verbose => "verbose"
  | .logJson => "log-json"
  | .otel => "otel"
  | .help => "help"
  | .version => "version"
  | .showTrace => "show-trace"
  | .disable => "disable"

def letter? : Flag → Option Char
  | .verbose => some 'v'
  | .help => some 'h'
  | .version => some 'V'
  | _ => none

/-- The command knows the flag; all but two are known everywhere. -/
def isKnownIn (scope : Scope) : Flag → Bool
  | .showTrace | .disable => scope = .run
  | _ => true

end Flag

inductive Setting where
  | correlationId
  | user
  | channel
  | strategy
  | traceMode
  deriving Repr, DecidableEq

namespace Setting

def all : List Setting := [.correlationId, .user, .channel, .strategy, .traceMode]

def name : Setting → String
  | .correlationId => "correlation-id"
  | .user => "user"
  | .channel => "channel"
  | .strategy => "strategy"
  | .traceMode => "trace-mode"

/-- The value is one that the setting can have. -/
def admits (value : String) : Setting → Bool
  | .correlationId | .user | .channel => true
  | .strategy => (Strategy.all.map Strategy.name).contains value
  | .traceMode => (TraceMode.all.map TraceMode.name).contains value

end Setting

inductive Refusal where
  | helpWanted
  | versionWanted
  | unusable
  deriving Repr, DecidableEq

def Refusal.exitCode : Refusal → Nat
  | .helpWanted | .versionWanted => 0
  | .unusable => 2

structure Reading where
  flags : List Flag := []
  verbose : Nat := 0
  settings : List (Setting × String) := []
  operands : List String := []
  /-- The option whose value comes next. -/
  pending : Option Setting := none
  /-- After a double dash everything is an operand. -/
  operandsOnly : Bool := false

namespace Reading

def addFlag (reading : Reading) : Flag → Except Refusal Reading
  | .help => .error .helpWanted
  | .version => .error .versionWanted
  | .verbose => .ok { reading with verbose := reading.verbose + 1 }
  | flag =>
    if reading.flags.contains flag then .error .unusable
    else .ok { reading with flags := flag :: reading.flags }

def addSetting (reading : Reading) (setting : Setting) (value : String) :
    Except Refusal Reading :=
  if !setting.admits value || (reading.settings.any fun entry => entry.1 = setting) then
    .error .unusable
  else .ok { reading with settings := (setting, value) :: reading.settings, pending := none }

def setting? (reading : Reading) (setting : Setting) : Option String :=
  (reading.settings.find? fun entry => entry.1 = setting).map (·.2)

/-- An option by its long name, with the value after an equals sign if there is one. -/
def addLong (scope : Scope) (reading : Reading) (name : String) (value : Option String) :
    Except Refusal Reading :=
  match Flag.all.find? fun flag => flag.isKnownIn scope && flag.name = name with
  | some flag => if value.isSome then .error .unusable else reading.addFlag flag
  | none =>
    match Setting.all.find? fun setting => scope = .run && setting.name = name with
    | none => .error .unusable
    | some setting =>
      match value with
      | some value => reading.addSetting setting value
      | none => .ok { reading with pending := some setting }

def addLetters (reading : Reading) : List Char → Except Refusal Reading
  | [] => .ok reading
  | letter :: rest =>
    match Flag.all.find? fun flag => flag.letter? = some letter with
    | some flag =>
      match reading.addFlag flag with
      | .ok reading => reading.addLetters rest
      | .error refusal => .error refusal
    | none => .error .unusable

def operandLimit : Scope → Nat
  | .run | .completions => 1
  | .top | .graph => 0

/-- The operand is one that the command can take: completions are written for known shells. -/
def admitsOperand (operand : String) : Scope → Bool
  | .completions => (Shell.all.map Shell.name).contains operand
  | .top | .run | .graph => true

def addOperand (scope : Scope) (reading : Reading) (operand : String) : Except Refusal Reading :=
  if reading.operands.length < operandLimit scope && admitsOperand operand scope then
    .ok { reading with operands := reading.operands ++ [operand] }
  else .error .unusable

def splitValue (chars : List Char) : String × Option String :=
  let name := String.ofList (chars.takeWhile (· ≠ '='))
  match chars.dropWhile (· ≠ '=') with
  | _ :: value => (name, some (String.ofList value))
  | [] => (name, none)

/-- The next argument. An option never serves as a value; a single dash is no option. -/
def next (scope : Scope) (reading : Reading) (argument : String) : Except Refusal Reading :=
  if reading.operandsOnly then reading.addOperand scope argument
  else
    let plain :=
      match reading.pending with
      | some setting => reading.addSetting setting argument
      | none => reading.addOperand scope argument
    match argument.toList with
    | ['-'] => plain
    | '-' :: rest =>
      if reading.pending.isSome then .error .unusable
      else match rest with
        | ['-'] => .ok { reading with operandsOnly := true }
        | '-' :: long => reading.addLong scope (splitValue long).1 (splitValue long).2
        | letters => reading.addLetters letters
    | _ => plain

def all (scope : Scope) (arguments : List String) : Except Refusal Reading := do
  let reading ← arguments.foldlM (next scope) {}
  if reading.pending.isSome then .error .unusable else .ok reading

end Reading

structure RunOptions where
  content : String
  correlationId : Option String := none
  user : Option String := none
  channel : Option String := none
  showTrace : Bool := false
  strategy : Option Strategy := none
  traceMode : Option TraceMode := none
  disable : Bool := false

inductive Command where
  | run (options : RunOptions)
  | graph
  | completions (shell : Shell)

structure Invocation where
  json : Bool
  quiet : Bool
  verbose : Nat
  logJson : Bool
  otel : Bool
  command : Command

namespace Invocation

def scope? : String → Option Scope
  | "run" => some .run
  | "graph" => some .graph
  | "completions" => some .completions
  | _ => none

/-- Help can be asked for about nothing or about one command. -/
def helpOn : List String → Refusal
  | [] => .helpWanted
  | [name] => if commandNames.contains name then .helpWanted else .unusable
  | _ => .unusable

/-- The command that the arguments after its name spell. -/
def commandOf (scope : Scope) (reading : Reading) : Except Refusal Command :=
  match scope, reading.operands with
  | .graph, [] => .ok .graph
  | .run, [content] => .ok (.run {
      content := content
      correlationId := reading.setting? .correlationId
      user := reading.setting? .user
      channel := reading.setting? .channel
      showTrace := reading.flags.contains .showTrace
      strategy := (reading.setting? .strategy).bind fun value =>
        Strategy.all.find? fun strategy => strategy.name = value
      traceMode := (reading.setting? .traceMode).bind fun value =>
        TraceMode.all.find? fun mode => mode.name = value
      disable := reading.flags.contains .disable })
  | .completions, [name] =>
    match Shell.all.find? fun shell => shell.name = name with
    | some shell => .ok (.completions shell)
    | none => .error .unusable
  | _, _ => .error .unusable

/-- The command with what was said before and after its name. The later count of a repeated flag
wins. -/
def combine (before after : Reading) (command : Command) : Invocation :=
  let given (flag : Flag) : Bool := before.flags.contains flag || after.flags.contains flag
  { json := given .json
    quiet := given .quiet
    verbose := if after.verbose = 0 then before.verbose else after.verbose
    logJson := given .logJson
    otel := given .otel
    command := command }

/-- Reads flags up to the name of a command, and then the rest as that command's arguments. -/
def ofArgumentsAfter (before : Reading) : List String → Except Refusal Invocation
  | [] => .error .unusable
  | argument :: rest =>
    let isName := !before.operandsOnly && commandNames.contains argument
    if isName then
      match scope? argument with
      | none => .error (helpOn rest)
      | some scope => do
        let after ← Reading.all scope rest
        return combine before after (← commandOf scope after)
    else
      match before.next .top argument with
      | .ok before => ofArgumentsAfter before rest
      | .error refusal => .error refusal

def ofArguments (arguments : List String) : Except Refusal Invocation :=
  ofArgumentsAfter {} arguments

end Invocation

end Switchyard.CommandLine
