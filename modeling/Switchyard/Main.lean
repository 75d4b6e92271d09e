import Std.Time.DateTime.Timestamp
import Switchyard.CommandLine.Run
set_option autoImplicit false

/-! The program: reads the arguments, the files and the clock, and prints what the command
reports. -/
namespace Switchyard

open CommandLine

def usage : String :=
  "Route messages through a decision graph and inspect how they were handled.\n\n" ++
  "Usage: rgraph [--json] [--quiet] [-v] [--log-json] [--otel] COMMAND\n\n" ++
  "Commands:\n" ++
  "  run CONTENT [--correlation-id ID] [--user ID] [--channel ID] [--show-trace]\n" ++
  "      [--strategy graceful|strict|hybrid] [--trace-mode full|essential|minimal] [--disable]\n" ++
  "  graph\n" ++
  "  completions bash|elvish|fish|powershell|zsh\n" ++
  "  help [COMMAND]\n"

def versionText : String := "rgraph 0.1.0"

def dataPath : IO String := do
  match ← IO.getEnv "RGRAPH_DATA_DIR" with
  | some path => return path
  | none =>
    match ← IO.getEnv "HOME" with
    | some home => return home ++ "/.routegraph"
    | none => return ".routegraph"

def pathIn (directory file : String) : String :=
  if directory.isEmpty || directory.endsWith "/" then directory ++ file
  else directory ++ "/" ++ file

def readFile (path : String) : IO FileContent := do
  try
    return FileContent.ofBytes (← IO.FS.readBinFile path)
  catch
    | .noFileOrDirectory .. => return .missing
    | _ => return .unreadable

def report (verbose : Nat) (quiet : Bool) (warnings : List Warning) : IO Unit := do
  for warning in warnings do
    if Verbosity.shows verbose quiet warning.level then IO.eprintln warning.line

def site : IO Site := do
  let directory ← dataPath
  let graphPath := pathIn directory "graph.toml"
  let millis := (← Std.Time.Timestamp.now).toMillisecondsSinceUnixEpoch.val
  let random := (← IO.getRandomBytes 10).foldl (fun number byte => number * 256 + byte.toNat) 0
  return {
    files := ⟨← readFile (pathIn directory "config.toml"), ← readFile graphPath⟩
    graphPath := graphPath
    freshId := freshId millis.toNat random
    now := Timestamp.ofMillis millis }

def perform (invocation : Invocation) : IO UInt32 := do
  let done := invocation.perform (← site)
  report invocation.verbose invocation.quiet done.warnings
  match done.result with
  | .ok (.lines lines) =>
    for line in lines do IO.println line
    return 0
  | .ok (.json value) =>
    IO.println (value.indented 0)
    return 0
  | .error message =>
    IO.eprintln ("Error: " ++ message)
    return 1

end Switchyard

open Switchyard in
def main (arguments : List String) : IO UInt32 := do
  match CommandLine.Invocation.ofArguments arguments with
  | .ok invocation => perform invocation
  | .error refusal =>
    match refusal with
    | .helpWanted => IO.print usage
    | .versionWanted => IO.println versionText
    | .unusable => IO.eprint usage
    return UInt32.ofNat refusal.exitCode
