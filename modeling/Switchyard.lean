import Switchyard.Dict
import Switchyard.Decimal.Text
import Switchyard.Json.Printer
import Switchyard.Json.Reader
import Switchyard.Text.Blank
import Switchyard.Text.Alphanumeric
import Switchyard.Text.LowerCase
import Switchyard.Graph.Codec
import Switchyard.Settings
import Switchyard.Capability.Heuristic
import Switchyard.Trace.Record
import Switchyard.Outcome
import Switchyard.Warning
import Switchyard.Legacy
import Switchyard.Builtin.Graph
import Switchyard.Execution.Node
import Switchyard.Execution.Walk
import Switchyard.Engine
import Switchyard.Rehearsal.Script
import Switchyard.Rehearsal.Timeline
import Switchyard.Toml.Reader
import Switchyard.Verbosity
import Switchyard.CommandLine.Run
import Switchyard.Main
import Switchyard.Proofs.Trace.Pinned
import Switchyard.Proofs.Engine.Run
import Switchyard.Proofs.Engine.Bookkeeping
import Switchyard.Proofs.Registry.Accepted
import Switchyard.Proofs.Execution.Node
import Switchyard.Proofs.Execution.Walk
import Switchyard.Proofs.Execution.DepthFirst
import Switchyard.Proofs.Execution.Certificate
import Switchyard.Proofs.Engine.Projection
import Switchyard.Proofs.Engine.Frame
import Switchyard.Proofs.Engine.TraceCertificate
import Switchyard.Proofs.Execution.Untimed
import Switchyard.Proofs.Engine.Isolation
import Switchyard.Proofs.Trace.Calls
import Switchyard.Proofs.Trace.AppendOnly
import Switchyard.Proofs.Trace.Cap
import Switchyard.Proofs.Engine.Steps
import Switchyard.Proofs.Engine.Cancellation
import Switchyard.Proofs.Execution.Disposition
import Switchyard.Proofs.Engine.Disposition
import Switchyard.Proofs.Execution.Outcome
import Switchyard.Proofs.Execution.Turns
import Switchyard.Proofs.Registry.Links
import Switchyard.Proofs.Execution.Safety
import Switchyard.Proofs.Execution.LinkPaths
import Switchyard.Proofs.Json.Equality
import Switchyard.Proofs.Context.Values
import Switchyard.Proofs.Execution.Delivery
import Switchyard.Proofs.Execution.RecordChain
import Switchyard.Proofs.Number.Moderate
import Switchyard.Proofs.Decimal.Size
import Switchyard.Proofs.Message.Complexity
import Switchyard.Proofs.Engine.Answers
import Switchyard.Proofs.Builtin.Subject
import Switchyard.Proofs.Execution.Visits
import Switchyard.Proofs.Builtin.Route
import Switchyard.Proofs.Execution.Footprints
import Switchyard.Proofs.Message.Question
import Switchyard.Proofs.Engine.Occasion
import Switchyard.Proofs.Builtin.Response
import Switchyard.Proofs.Builtin.Steering
import Switchyard.Proofs.Engine.Calls
import Switchyard.Proofs.Execution.Watch
import Switchyard.Proofs.Trace.Removal
import Switchyard.Proofs.Trace.Watched
import Switchyard.Proofs.Engine.Watched
import Switchyard.Proofs.Trace.Room
import Switchyard.Proofs.Engine.Clocks
import Switchyard.Proofs.Engine.Observation
import Switchyard.Proofs.Execution.Consultation
import Switchyard.Proofs.Engine.Decisions
import Switchyard.Proofs.Context.Sizes
import Switchyard.Proofs.Execution.Sightings
import Switchyard.Proofs.Execution.SizeLimit
import Switchyard.Proofs.Execution.Parameters
import Switchyard.Proofs.Engine.FallbackFlag
import Switchyard.Proofs.Engine.Activations
import Switchyard.Proofs.Trace.Activations
import Switchyard.Proofs.Registry.Cycles
import Switchyard.Proofs.Registry.Validity
import Switchyard.Proofs.Registry.Export
import Switchyard.Proofs.Graph.Texts
import Switchyard.Proofs.Trace.Texts
import Switchyard.Proofs.Execution.LeafEffect
import Switchyard.Proofs.Trace.Purge
import Switchyard.Proofs.Trace.Retention
import Switchyard.Proofs.Trace.Snapshot
import Switchyard.Proofs.Context.Request
import Switchyard.Proofs.Context.Reachable
import Switchyard.Proofs.Context.Changes
import Switchyard.Proofs.Context.SerializedSize
import Switchyard.Proofs.Engine.Records
import Switchyard.Proofs.Engine.Summaries
import Switchyard.Proofs.Engine.Replay
import Switchyard.Proofs.Number.Rounding
import Switchyard.Proofs.Message.Layout
import Switchyard.Proofs.Message.Score
import Switchyard.Proofs.Builtin.Question
import Switchyard.Proofs.Builtin.Layout
import Switchyard.Proofs.Execution.ParameterViews
