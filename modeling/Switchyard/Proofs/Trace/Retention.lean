import Switchyard.DataDirectory
import Switchyard.Proofs.Json.Fields
import Switchyard.Proofs.Trace.Purge
set_option autoImplicit false

/-! Purging by age. Settings may ask for any number of seconds for which traces are kept. The number
is taken at its word as long as it can be counted in milliseconds and does not reach back before the
calendar; what cannot be counted is taken for a day, and what reaches back too far purges nothing
and has no result. Main statements: `Recorder.purgeExpired_exact`,
`Recorder.long_retention_is_not_honoured`. -/
namespace Switchyard

theorem Settings.retention_accepted (secs : UInt64) : ∃ settings,
    Settings.ofJson? (Json.object [("trace_retention_secs", Json.ofUInt64 secs)]) =
      some settings ∧ (Recorder.ofSettings settings.repaired.1).retentionSecs = secs := by
  refine ⟨{ retentionSecs := secs }, ?_, rfl⟩
  have asked : (Json.object [("trace_retention_secs", Json.ofUInt64 secs)]).withDefault
      "trace_retention_secs" 86400 Json.uint64? = some secs :=
    Json.withDefault_eq (by simp) (Json.uint64?_ofUInt64 secs)
  rw [Settings.ofJson?, asked]
  -- the other fields are missing and have their defaults
  rfl

namespace Recorder

def keptSecs (recorder : Recorder) : Int :=
  if longestRetentionSecs < recorder.retentionSecs.toNat then 86400
  else recorder.retentionSecs.toNat

example : earliest.nanos = -8334601228800 * 1000000000 := by decide

section Cutoff

variable {recorder : Recorder} {now cutoff : Timestamp}

theorem expiryCutoff?_eq : recorder.expiryCutoff? now =
    if now.nanos - recorder.keptSecs * 1000000000 < earliest.nanos then none
    else some { nanos := now.nanos - recorder.keptSecs * 1000000000 } := rfl

theorem expiryCutoff?_eq_none_iff : recorder.expiryCutoff? now = none ↔
    now.nanos < earliest.nanos + recorder.keptSecs * 1000000000 := by
  rw [expiryCutoff?_eq]
  split
  · simp only [true_iff]
    omega
  · simp only [reduceCtorEq, false_iff]
    omega

theorem millis_of_expiryCutoff? (found : recorder.expiryCutoff? now = some cutoff) :
    cutoff.millis = now.nanos / 1000000 - recorder.keptSecs * 1000 := by
  rw [expiryCutoff?_eq] at found
  split at found
  · cases found
  · obtain rfl := Option.some.inj found
    simp only [Timestamp.millis, Bool.false_eq_true, if_false]
    omega

end Cutoff

theorem Purged.older {cutoff : Int} {before after : Recorder} {removed : Nat}
    (purged : Purged cutoff before after removed) {id : String} {log : TraceLog}
    (held : before.logs.get? id = some log) (gone : after.logs.contains id = false) :
    log.lastAppend.millis < cutoff := by
  rw [contains_of_stale_gone purged.logs, Dict.contains, held, isStale, held] at gone
  simp only [Option.isSome_some, Bool.true_and, Option.any_some, Bool.not_eq_false',
    Bool.and_eq_true, decide_eq_true_eq] at gone
  exact gone.1

/-- Settings may ask for any number of seconds. Whatever it is, whenever traces are purged by age and
whatever traces there are: there is no result exactly if the seconds reach back before the calendar,
and otherwise exactly the traces go that were last appended to longer ago, in milliseconds, and have
no running request. The seconds are those that were asked for if they can be counted in milliseconds,
so that no younger trace goes, and those of a day if they cannot. -/
theorem purgeExpired_exact (recorder : Recorder) (now : Timestamp) :
    (∀ secs : UInt64, ∃ settings,
      Settings.ofJson? (Json.object [("trace_retention_secs", Json.ofUInt64 secs)]) =
        some settings ∧ (ofSettings settings.repaired.1).retentionSecs = secs) ∧
    (recorder.purgeExpired? now = none ↔
      now.nanos < earliest.nanos + recorder.keptSecs * 1000000000) ∧
    (∀ after removed, recorder.purgeExpired? now = some (after, removed) →
      Purged (now.nanos / 1000000 - recorder.keptSecs * 1000) recorder after removed ∧
      ∀ id log, recorder.logs.get? id = some log → after.logs.contains id = false →
        recorder.keptSecs * 1000 < now.nanos / 1000000 - log.lastAppend.millis) ∧
    (recorder.retentionSecs.toNat ≤ longestRetentionSecs →
      recorder.keptSecs = recorder.retentionSecs.toNat) ∧
    (longestRetentionSecs < recorder.retentionSecs.toNat → recorder.keptSecs = 86400) := by
  refine ⟨Settings.retention_accepted, ?_, ?_, ?_, ?_⟩
  · rw [purgeExpired?, Option.map_eq_none_iff]
    exact expiryCutoff?_eq_none_iff
  · intro after removed purged
    obtain ⟨cutoff, found, result⟩ := Option.map_eq_some_iff.mp purged
    have exact := recorder.purgeBefore_purged cutoff
    rw [result, millis_of_expiryCutoff? found] at exact
    refine ⟨exact, ?_⟩
    intro id log held gone
    have older := exact.older held gone
    omega
  · intro countable
    exact if_neg (Nat.not_lt.mpr countable)
  · intro uncountable
    exact if_pos uncountable

namespace Sample

def newYear : Timestamp := .ofMillis 1767225600000

def twoDaysBefore : Timestamp := .ofMillis (1767225600000 - 172800000)

def visit : TraceRecord where
  timestamp := twoDaysBefore
  correlationId := "r"
  nodeId := "gate"
  nodeKind := .action
  action := "configure:"
  inputsSummary := .null
  outputsSummary := .null
  performance := ⟨twoDaysBefore, twoDaysBefore, 0, none⟩
  nextNodes := []

def keeping (secs : UInt64) : Recorder := (new .full secs 10).record twoDaysBefore visit

end Sample

/-- Two retentions of more than a hundred thousand years. With the one there is no purge at all; the
other is longer still, and a trace of two days goes. -/
theorem long_retention_is_not_honoured :
    (Sample.keeping 9000000000000).purgeExpired? Sample.newYear = none ∧
    ∃ after, (Sample.keeping 18446744073709551615).purgeExpired? Sample.newYear =
      some (after, 1) ∧ after.logs.contains "r" = false :=
  ⟨by decide, _, rfl, rfl⟩

end Recorder

end Switchyard
