import Switchyard.Settings
import Switchyard.Trace.Record
set_option autoImplicit false

/-! The store of traces. A trace is the list of records of one request; it only grows, and it is
removed as a whole: when there are too many traces or when it has grown old. Traces of running
requests are never removed. -/
namespace Switchyard

structure TraceLog where
  /-- When a record was appended last. -/
  lastAppend : Timestamp
  records : List TraceRecord

structure Recorder where
  logs : Dict TraceLog := Dict.empty
  /-- How many requests of each id are running; no entry stands for none. -/
  running : Dict Nat := Dict.empty
  activations : Dict (List NodeActivation) := Dict.empty
  decisions : Dict CapabilityDecision := Dict.empty
  mode : TraceMode
  retentionSecs : UInt64
  maxRequests : Nat

namespace Recorder

def maxActivations : Nat := 1000

def maxSnapshotRecords : Nat := 100

def maxSummaryChars : Nat := 200

/-- There is always room for one trace. -/
def new (mode : TraceMode) (retentionSecs : UInt64) (maxRequests : Nat) : Recorder :=
  { mode := mode, retentionSecs := retentionSecs, maxRequests := max maxRequests 1 }

def ofSettings (settings : Settings) : Recorder :=
  new settings.traceMode settings.retentionSecs settings.maxTracedRequests.toNat

/-- A text that is too long is cut, and the cut is marked. -/
def cut : Json → Json
  | .str text =>
    if maxSummaryChars < text.length then
      .str (String.ofList (text.toList.take maxSummaryChars) ++ "...")
    else .str text
  | value => value

def summarize (mode : TraceMode) (values : Dict Json) : Json :=
  match mode with
  | .full => Json.ofDict (values.map fun _ value => cut value)
  | .essential => Json.texts values.keys
  | .minimal => .null

def traces (recorder : Recorder) (id : String) : List TraceRecord :=
  ((recorder.logs.get? id).map (·.records)).getD []

def activationsOf (recorder : Recorder) (nodeId : String) : List NodeActivation :=
  (recorder.activations.get? nodeId).getD []

def decision? (recorder : Recorder) (id : String) : Option CapabilityDecision :=
  recorder.decisions.get? id

def isRunning (recorder : Recorder) (id : String) : Bool := recorder.running.contains id

def runningCount (recorder : Recorder) (id : String) : Nat := (recorder.running.get? id).getD 0

def traceCount (recorder : Recorder) : Nat := recorder.logs.size

/-- The trace may be removed when there are too many: it is not to be kept and no request of its id
is running. -/
def isRemovable (recorder : Recorder) (keep : String) (entry : String × TraceLog) : Bool :=
  entry.1 != keep && !recorder.isRunning entry.1

/-- Of two traces the one that was appended to longer ago, the earlier one if they are equal. -/
def older (best : Option (String × TraceLog)) (entry : String × TraceLog) :
    Option (String × TraceLog) :=
  match best with
  | none => some entry
  | some (id, log) =>
    if entry.2.lastAppend.millis < log.lastAppend.millis then some entry else some (id, log)

/-- The trace that may be removed and was appended to the longest ago. -/
def oldest? (recorder : Recorder) (keep : String) : Option (String × TraceLog) :=
  (recorder.logs.entries.filter (recorder.isRemovable keep)).foldl older none

def removeTrace (recorder : Recorder) (id : String) : Recorder :=
  { recorder with logs := recorder.logs.erase id, decisions := recorder.decisions.erase id }

/-- Removes so many traces, the oldest first, as long as one may be removed. -/
def evict (keep : String) : Nat → Recorder → Recorder
  | 0, recorder => recorder
  | excess + 1, recorder =>
    match recorder.oldest? keep with
    | some (id, _) => evict keep excess (recorder.removeTrace id)
    | none => recorder

def enforceCap (recorder : Recorder) (keep : String) : Recorder :=
  evict keep (recorder.traceCount - recorder.maxRequests) recorder

/-- The record with a time that is not before that of the record it follows. -/
def afterLast (records : List TraceRecord) (record : TraceRecord) : TraceRecord :=
  match records.getLast? with
  | some last =>
    if record.timestamp.rank < last.timestamp.rank then
      { record with timestamp := last.timestamp }
    else record
  | none => record

/-- Appends to the trace of the record's request; a new trace may push out an old one. -/
def record (recorder : Recorder) (now : Timestamp) (record : TraceRecord) : Recorder :=
  let id := record.correlationId
  match recorder.logs.get? id with
  | some log =>
    { recorder with
      logs := recorder.logs.insert id ⟨now, log.records ++ [afterLast log.records record]⟩ }
  | none => { recorder with logs := recorder.logs.insert id ⟨now, [record]⟩ }.enforceCap id

def beginRequest (recorder : Recorder) (id : String) : Recorder :=
  { recorder with running := recorder.running.insert id (recorder.runningCount id + 1) }

/-- One request of this id less is running. -/
def release (recorder : Recorder) (id : String) : Recorder :=
  let count := recorder.runningCount id - 1
  { recorder with
    running := if count = 0 then recorder.running.erase id else recorder.running.insert id count }

def finishRequest (recorder : Recorder) (id : String) : Recorder :=
  (recorder.release id).enforceCap id

/-- Keeps the latest activations of a node. -/
def recordActivation (recorder : Recorder) (nodeId : String) (activation : NodeActivation) :
    Recorder :=
  let log := recorder.activationsOf nodeId
  let room := if maxActivations ≤ log.length then log.drop 1 else log
  { recorder with activations := recorder.activations.insert nodeId (room ++ [activation]) }

def recordDecision (recorder : Recorder) (id : String) (decision : CapabilityDecision) :
    Recorder :=
  { recorder with decisions := recorder.decisions.insert id decision }

def completeTraceability (recorder : Recorder) (id : String) : CompleteTraceability :=
  let traces := recorder.traces id
  ⟨id, traces, recorder.decision? id, traces.filter fun record => record.nodeKind = .capability⟩

/-- The latest of many records in order of time; records of equal time keep their order. -/
def latest (records : List TraceRecord) : List TraceRecord :=
  let sorted := records.mergeSort fun first second =>
    decide (first.timestamp.rank ≤ second.timestamp.rank)
  sorted.drop (sorted.length - maxSnapshotRecords)

def recent (recorder : Recorder) : List TraceRecord :=
  latest (recorder.logs.values.flatMap (·.records))

def snapshot (recorder : Recorder) (now : Timestamp) (metrics : SystemMetrics) : TraceSnapshot :=
  ⟨now, metrics, recorder.recent⟩

/-- The trace was appended to since a cutoff, or a request of its id is running. -/
def outlives (recorder : Recorder) (cutoff : Timestamp) (id : String) (log : TraceLog) : Bool :=
  decide (cutoff.millis ≤ log.lastAppend.millis) || recorder.isRunning id

/-- Removes the traces that do not outlive a cutoff and every decision without a trace; also tells
how many traces went. -/
def purgeBefore (recorder : Recorder) (cutoff : Timestamp) : Recorder × Nat :=
  let logs := recorder.logs.filter (recorder.outlives cutoff)
  ({ recorder with
      logs := logs
      decisions := recorder.decisions.filter fun id _ => logs.contains id },
    recorder.logs.size - logs.size)

/-- The longest retention, in seconds, that a span of signed milliseconds can hold; a longer one
counts as a day. -/
def longestRetentionSecs : Nat := 9223372036854775

def earliest : Timestamp := { nanos := Date.dayNumber ⟨-262143, 1, 1⟩ * Timestamp.nanosPerDay }

/-- The time before which traces have expired, unless that lies before the calendar. -/
def expiryCutoff? (recorder : Recorder) (now : Timestamp) : Option Timestamp :=
  let secs := recorder.retentionSecs.toNat
  let retention : Int := if longestRetentionSecs < secs then 86400 else secs
  let cutoff := now.nanos - retention * 1000000000
  if cutoff < earliest.nanos then none else some { nanos := cutoff }

/-- Removes expired traces; none when the retention reaches back before the calendar. -/
def purgeExpired? (recorder : Recorder) (now : Timestamp) : Option (Recorder × Nat) :=
  (recorder.expiryCutoff? now).map recorder.purgeBefore

end Recorder

end Switchyard
