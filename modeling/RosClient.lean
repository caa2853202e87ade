import RosClient.Logging.Install
import RosClient.Proofs.Arguments.Assignment
import RosClient.Proofs.Arguments.Layout
import RosClient.Proofs.Arguments.Render
import RosClient.Proofs.Verdict.Basic
import RosClient.Proofs.Verdict.Clock
import RosClient.Proofs.Verdict.Confined
import RosClient.Proofs.Verdict.Context
import RosClient.Proofs.Verdict.Timer
import RosClient.Proofs.Context.Domain
import RosClient.Proofs.Context.Event
import RosClient.Proofs.Context.Handle
import RosClient.Proofs.Context.Init
import RosClient.Proofs.Context.Instant
import RosClient.Proofs.Context.Lifecycle
import RosClient.Proofs.Context.Refinement
import RosClient.Proofs.Context.Release
import RosClient.Proofs.Diagnostic.Action
import RosClient.Proofs.Diagnostic.Call
import RosClient.Proofs.Diagnostic.Handle
import RosClient.Proofs.Diagnostic.History
import RosClient.Proofs.Diagnostic.Operation
import RosClient.Proofs.Diagnostic.Session
import RosClient.Proofs.Diagnostic.Step
import RosClient.Proofs.Handle.Action
import RosClient.Proofs.Handle.Follow
import RosClient.Proofs.Handle.Keeps
import RosClient.Proofs.Handle.Override
import RosClient.Proofs.Operation.Confined
import RosClient.Proofs.Operation.Effect
import RosClient.Proofs.Operation.Objects
import RosClient.Proofs.Operation.Refused
import RosClient.Proofs.Run.Given
import RosClient.Proofs.Run.Moment
import RosClient.Proofs.Session.Basic
import RosClient.Proofs.Session.Clocks
import RosClient.Proofs.Session.Deed
import RosClient.Proofs.Session.HandleOperation
import RosClient.Proofs.Session.Handles
import RosClient.Proofs.Session.Keeps
import RosClient.Proofs.Session.Live
import RosClient.Proofs.Session.Nonnegative
import RosClient.Proofs.Session.Refinement
import RosClient.Proofs.Session.Release
import RosClient.Proofs.Session.Timers
import RosClient.Proofs.Session.Vacant
import RosClient.Proofs.Text.Number
import RosClient.Proofs.Text.Utf8
import RosClient.Proofs.TimeSource.InStep
import RosClient.Proofs.Timer.Apart
import RosClient.Proofs.Timer.Callback
import RosClient.Proofs.Timer.Canceled
import RosClient.Proofs.Timer.Deadline
import RosClient.Proofs.Timer.Elapsed
import RosClient.Proofs.Timer.Event
import RosClient.Proofs.Timer.Function
import RosClient.Proofs.Timer.Grid
import RosClient.Proofs.Timer.Instant
import RosClient.Proofs.Timer.Order
import RosClient.Session.Run
import RosClient.Proofs.Timer.LeastPoint
import RosClient.Proofs.Timer.Query
import RosClient.Proofs.Timer.Burst
import RosClient.Proofs.Context.Outcome
import RosClient.Proofs.Clock.Register
import RosClient.Proofs.Run.Seen
import RosClient.Proofs.Timer.Reset
import RosClient.Proofs.Timer.Exchange
import RosClient.Proofs.Context.Unparsed
import RosClient.Proofs.Time.Message
import RosClient.Proofs.Arguments.Append
import RosClient.Proofs.Logging.Level
