import Switchyard.Graph.Codec
import Switchyard.Settings
import Switchyard.Toml.Reader
import Switchyard.Warning
set_option autoImplicit false

/-! The data directory: a file of settings and a file with a graph, both optional. Bad settings only
warn, since there are defaults for them; a bad graph is an error. -/
namespace Switchyard

inductive FileContent where
  | missing
  | unreadable
  | text (content : String)
  deriving Repr, DecidableEq

/-- Bytes that are no text make a file unreadable. -/
def FileContent.ofBytes (bytes : ByteArray) : FileContent :=
  match String.fromUTF8? bytes with
  | some content => .text content
  | none => .unreadable

structure DataDirectory where
  settings : FileContent := .missing
  graph : FileContent := .missing

namespace Settings

/-- Settings with a default for each value that makes no sense, and the warnings of doing so. -/
def repaired (settings : Settings) : Settings × List Warning :=
  let defaults : Settings := {}
  let timeoutBad := settings.capabilityTimeoutMs = 0
  let thresholdBad :=
    !(0.0 ≤ settings.complexityThreshold && settings.complexityThreshold ≤ 1.0)
  ({ settings with
      capabilityTimeoutMs :=
        if timeoutBad then defaults.capabilityTimeoutMs else settings.capabilityTimeoutMs
      complexityThreshold :=
        if thresholdBad then defaults.complexityThreshold else settings.complexityThreshold
      cleanupIntervalSecs :=
        if settings.cleanupIntervalSecs = 0 then defaults.cleanupIntervalSecs
        else settings.cleanupIntervalSecs },
    (if timeoutBad then [.timeoutNotPositive defaults.capabilityTimeoutMs] else []) ++
    (if thresholdBad then
      [.thresholdOutOfRange settings.complexityThreshold defaults.complexityThreshold] else []))

/-- The settings in a file, or the defaults when it is missing or no good. -/
def ofFile : FileContent → Settings × List Warning
  | .missing => ({}, [])
  | .unreadable => ({}, [.unreadableSettings])
  | .text content =>
    match (Toml.ofText? content).bind ofJson? with
    | some settings => settings.repaired
    | none => ({}, [.malformedSettings])

end Settings

inductive GraphFileError where
  | unreadable
  | malformed
  deriving Repr, DecidableEq

namespace GraphFileError

def kind : GraphFileError → String
  | .unreadable => "Read"
  | .malformed => "Parse"

def message (path : String) : GraphFileError → String
  | .unreadable => "failed to read " ++ path
  | .malformed => "failed to parse " ++ path

end GraphFileError

def GraphDefinition.ofFile : FileContent → Except GraphFileError (Option GraphDefinition)
  | .missing => .ok none
  | .unreadable => .error .unreadable
  | .text content =>
    match (Toml.ofText? content).bind ofJson? with
    | some graph => .ok (some graph)
    | none => .error .malformed

end Switchyard
