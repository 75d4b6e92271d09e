set_option autoImplicit false

/-! How urgent a report is, and which reports are shown to someone who has asked for more of them or
for silence. -/
namespace Switchyard

inductive Level where
  | warn
  | error
  deriving Repr, DecidableEq

def Level.name : Level → String
  | .warn => "WARN"
  | .error => "ERROR"

namespace Verbosity

/-- Asking for more wins over asking for silence. -/
def filter (verbose : Nat) (quiet : Bool) : String :=
  match verbose with
  | 0 => if quiet then "error" else "warn"
  | 1 => "info,routegraph=debug"
  | _ => "trace"

/-- Silence leaves only errors. -/
def shows (verbose : Nat) (quiet : Bool) (level : Level) : Bool :=
  filter verbose quiet != "error" || level = .error

end Verbosity

end Switchyard
