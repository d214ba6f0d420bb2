import Conformance.Calls
import Conformance.Capability
import Conformance.CommandLine.Arguments
import Conformance.CommandLine.Run
import Conformance.CommandLine.Select
import Conformance.Config
import Conformance.Descent
import Conformance.Duration
import Conformance.Error
import Conformance.Feature.Basic
import Conformance.Feature.Script
import Conformance.Features.BasicActivity
import Conformance.Features.NonDurableReject
import Conformance.Features.Registry
import Conformance.Features.ServerUnavailable
import Conformance.Features.WorkerRestart
import Conformance.Files.Path
import Conformance.Files.Tree
import Conformance.History.Codec
import Conformance.History.Event
import Conformance.History.Fixtures
import Conformance.History.Replay
import Conformance.Json.Basic
import Conformance.Json.Draft
import Conformance.Json.Print
import Conformance.Json.Read
import Conformance.Main
import Conformance.Network
import Conformance.Number.Binary64
import Conformance.Number.Shortest
import Conformance.Outcome
import Conformance.Program
import Conformance.Proofs.Alone.Course
import Conformance.Proofs.Alone.Opening
import Conformance.Proofs.Alone.Passing
import Conformance.Proofs.Alone.Scripts
import Conformance.Proofs.Alone.Waiting
import Conformance.Proofs.Background.Deadline
import Conformance.Proofs.Background.Sleeping
import Conformance.Proofs.Background.Ticking
import Conformance.Proofs.Background.Unnoticed
import Conformance.Proofs.CommandLine.Streams
import Conformance.Proofs.CommandLine.Verdict
import Conformance.Proofs.Connections.Closing
import Conformance.Proofs.Delivery.Completions
import Conformance.Proofs.Delivery.Handles
import Conformance.Proofs.Delivery.MadeIds
import Conformance.Proofs.Delivery.Results
import Conformance.Proofs.Delivery.Schedule
import Conformance.Proofs.Delivery.Timeline
import Conformance.Proofs.Failing
import Conformance.Proofs.Files.Paths
import Conformance.Proofs.Files.Proper
import Conformance.Proofs.Files.Segments
import Conformance.Proofs.Files.Writing
import Conformance.Proofs.History.Discovery
import Conformance.Proofs.History.Exports
import Conformance.Proofs.History.Forms
import Conformance.Proofs.History.Joining
import Conformance.Proofs.History.Orderly
import Conformance.Proofs.History.PastReplays
import Conformance.Proofs.History.Reading
import Conformance.Proofs.History.Reloading
import Conformance.Proofs.History.Reordering
import Conformance.Proofs.History.Storing
import Conformance.Proofs.Isolation.Actions
import Conformance.Proofs.Isolation.Changes
import Conformance.Proofs.Isolation.Interference
import Conformance.Proofs.Isolation.Renaming
import Conformance.Proofs.Isolation.Requests
import Conformance.Proofs.Isolation.Shares
import Conformance.Proofs.Isolation.Steps
import Conformance.Proofs.Json.Canonical
import Conformance.Proofs.Json.Forms
import Conformance.Proofs.Json.Records
import Conformance.Proofs.Proxy.Bracketing
import Conformance.Proofs.Proxy.Brackets
import Conformance.Proofs.Proxy.Chronicle
import Conformance.Proofs.Proxy.CommandUrls
import Conformance.Proofs.Proxy.Running
import Conformance.Proofs.Replay.Agreement
import Conformance.Proofs.Replay.Detection
import Conformance.Proofs.Replay.Exports
import Conformance.Proofs.Replay.Fidelity
import Conformance.Proofs.Replay.Outcomes
import Conformance.Proofs.Replay.Reconstruction
import Conformance.Proofs.Replay.Recording
import Conformance.Proofs.Replay.Simulation
import Conformance.Proofs.Runner.Frame
import Conformance.Proofs.Runner.Generation
import Conformance.Proofs.Runner.Holds
import Conformance.Proofs.Runner.Lifecycle
import Conformance.Proofs.Runner.Namespaces
import Conformance.Proofs.Runner.Probing
import Conformance.Proofs.Runner.Release
import Conformance.Proofs.Runner.Restarting
import Conformance.Proofs.Runner.Routing
import Conformance.Proofs.Runner.Traffic
import Conformance.Proofs.Runner.Triples
import Conformance.Proofs.Runner.Untouched
import Conformance.Proofs.Schedules.Counting
import Conformance.Proofs.Schedules.Errand
import Conformance.Proofs.Schedules.Moves
import Conformance.Proofs.Schedules.Opening
import Conformance.Proofs.Schedules.Rejections
import Conformance.Proofs.Schedules.Restart
import Conformance.Proofs.Schedules.Rules
import Conformance.Proofs.Schedules.Running
import Conformance.Proofs.Schedules.Scripts
import Conformance.Proofs.Schedules.Timeless
import Conformance.Proofs.Server.Accounting
import Conformance.Proofs.Server.Handover
import Conformance.Proofs.Server.Histories
import Conformance.Proofs.Server.Holdings
import Conformance.Proofs.Server.Numbering
import Conformance.Proofs.Server.Requests
import Conformance.Proofs.Server.Run
import Conformance.Proofs.Server.Story
import Conformance.Proofs.Server.TaskMoves
import Conformance.Proofs.Server.Transcripts
import Conformance.Proofs.Server.Turns
import Conformance.Proofs.Summary.Stream
import Conformance.Proofs.Text.Bytes
import Conformance.Proofs.Text.Marks
import Conformance.Proofs.Text.Numerals
import Conformance.Proofs.Url.Forms
import Conformance.Proofs.Url.Reading
import Conformance.Proofs.Version.Order
import Conformance.Proofs.Version.Reading
import Conformance.Proofs.Version.Writing
import Conformance.Proxy.Bracket
import Conformance.Proxy.Command
import Conformance.Proxy.Controller
import Conformance.Rpc
import Conformance.Runner.Basic
import Conformance.Runner.Run
import Conformance.Runner.WorkerManager
import Conformance.Scenario.Bracket
import Conformance.Scenario.Causes
import Conformance.Scenario.Code
import Conformance.Scenario.Environment
import Conformance.Scenario.Feature
import Conformance.Scenario.Fields
import Conformance.Scenario.Report
import Conformance.Scenario.Session
import Conformance.Scenario.Steps
import Conformance.Sdk
import Conformance.Server.Basic
import Conformance.Server.Calls
import Conformance.Server.Tasks
import Conformance.Signals
import Conformance.Summary.Entry
import Conformance.Summary.Sink
import Conformance.Summary.Target
import Conformance.Table
import Conformance.Text.Blank
import Conformance.Text.CodeTable
import Conformance.Text.Composition
import Conformance.Text.Normal
import Conformance.Text.Numeral
import Conformance.Text.Split
import Conformance.Text.Utf8
import Conformance.Url.Basic
import Conformance.Url.Domain
import Conformance.Url.Domain.Direction
import Conformance.Url.Domain.Joining
import Conformance.Url.Domain.Mapping
import Conformance.Url.Domain.Places
import Conformance.Url.Encode
import Conformance.Url.Host
import Conformance.Url.Path
import Conformance.Url.Read
import Conformance.Version
import Conformance.Worker
import Conformance.Workflow.Code
import Conformance.Workflow.Failure
import Conformance.Workflow.Method
import Conformance.World
