import Heartbeat.Address
import Heartbeat.Address.Host
import Heartbeat.Address.Label
import Heartbeat.Child
import Heartbeat.CommandLine.Application
import Heartbeat.CommandLine.Arguments
import Heartbeat.CommandLine.Invocation
import Heartbeat.Delivery.Client
import Heartbeat.Delivery.Recipient
import Heartbeat.Delivery.Resource
import Heartbeat.Delivery.Sink
import Heartbeat.Delivery.Step
import Heartbeat.Delivery.Tracker
import Heartbeat.Delivery.World
import Heartbeat.ExitCode
import Heartbeat.Failure
import Heartbeat.Files.Append
import Heartbeat.Files.Change
import Heartbeat.Files.Path
import Heartbeat.Files.Surroundings
import Heartbeat.Files.Tree
import Heartbeat.Json
import Heartbeat.Json.Reader
import Heartbeat.Log
import Heartbeat.Log.Process
import Heartbeat.Log.Setup
import Heartbeat.Main
import Heartbeat.Number.Decimal
import Heartbeat.Number.Double
import Heartbeat.Number.Shortest
import Heartbeat.Record
import Heartbeat.Record.Encode
import Heartbeat.Reporter
import Heartbeat.Settings
import Heartbeat.Settings.EnvironmentFile
import Heartbeat.Settings.Layout
import Heartbeat.Settings.Resolve
import Heartbeat.Settings.Scalar
import Heartbeat.Shell.Condition
import Heartbeat.Shell.Expansion
import Heartbeat.Shell.Expression
import Heartbeat.Shell.Interpreter
import Heartbeat.Shell.Line
import Heartbeat.Shell.Pattern
import Heartbeat.Shell.Printed
import Heartbeat.Shell.Program
import Heartbeat.Shell.Script
import Heartbeat.Shell.Signal
import Heartbeat.Shell.State
import Heartbeat.Shell.Sum
import Heartbeat.Shell.Word
import Heartbeat.Status
import Heartbeat.Text
import Heartbeat.Text.Blank
import Heartbeat.Text.Escaped
import Heartbeat.Text.Printable
import Heartbeat.Text.Punycode
import Heartbeat.Text.Quoted
import Heartbeat.Text.Resemblance
import Heartbeat.Text.Upper
import Heartbeat.Text.Utf8
import Heartbeat.Text.Width
import Heartbeat.Text.Wrap
import Heartbeat.Value
import Heartbeat.Value.Display
import Heartbeat.Value.Graph
import Heartbeat.Proofs.Number.Digits
import Heartbeat.Proofs.Number.Rounding
import Heartbeat.Proofs.Number.Shortest
import Heartbeat.Proofs.Text.Utf8
import Heartbeat.Proofs.Json.Number
import Heartbeat.Proofs.Json.Double
import Heartbeat.Proofs.Json.RoundTrip
import Heartbeat.Proofs.Record.RoundTrip
import Heartbeat.Proofs.Delivery.Congruence
import Heartbeat.Proofs.Delivery.Flat
import Heartbeat.Proofs.Json.Points
import Heartbeat.Proofs.Record.Failure
import Heartbeat.Proofs.Delivery.Contract
import Heartbeat.Proofs.Delivery.Moments
import Heartbeat.Proofs.Delivery.Lines
import Heartbeat.Proofs.Delivery.Tracker
import Heartbeat.Proofs.Files.Opening
import Heartbeat.Proofs.Value.Writable
import Heartbeat.Proofs.Record.Acceptance
import Heartbeat.Proofs.Settings.Valid
import Heartbeat.Proofs.Reporter
import Heartbeat.Proofs.Files.Devices
import Heartbeat.Proofs.Delivery.Calm
import Heartbeat.Proofs.Delivery.Closing
import Heartbeat.Proofs.Reporter.Quiet
import Heartbeat.Proofs.CommandLine.Outcome
import Heartbeat.Proofs.Value.Offences
import Heartbeat.Proofs.Value.Unfolding
import Heartbeat.Proofs.Value.Cycles
import Heartbeat.Proofs.Record.Sharing
import Heartbeat.Proofs.Files.Handles
import Heartbeat.Proofs.Delivery.Actions
import Heartbeat.Proofs.Delivery.Attempts
import Heartbeat.Proofs.Delivery.Turns
import Heartbeat.Proofs.Delivery.Agreement
import Heartbeat.Proofs.Delivery.Holdings
import Heartbeat.Proofs.Delivery.Isolation
import Heartbeat.Proofs.Delivery.Requests
import Heartbeat.Proofs.Delivery.Timeouts
import Heartbeat.Proofs.Files.Paths
import Heartbeat.Proofs.Files.Reopening
import Heartbeat.Proofs.Delivery.MetricsFile
import Heartbeat.Proofs.Delivery.Runs
import Heartbeat.Proofs.Record.FirstOffence
import Heartbeat.Proofs.Record.Message
import Heartbeat.Proofs.CommandLine.Grammar
import Heartbeat.Proofs.CommandLine.Arguments
import Heartbeat.Proofs.Reporter.MetricsFile
import Heartbeat.Proofs.Reporter.Ownership
import Heartbeat.Proofs.CommandLine.Heartbeats
import Heartbeat.Proofs.CommandLine.Disabled
import Heartbeat.Proofs.Settings.Usable
import Heartbeat.Proofs.CommandLine.Misuse
import Heartbeat.Proofs.CommandLine.Rejection
import Heartbeat.Proofs.Delivery.Levels
import Heartbeat.Proofs.Delivery.Discarded
import Heartbeat.Proofs.Record.Decoding
import Heartbeat.Proofs.Record.Canonical
import Heartbeat.Proofs.Files.Appending
import Heartbeat.Proofs.Settings.Document
import Heartbeat.Proofs.Settings.Variables
import Heartbeat.Proofs.Settings.EnvironmentFile
import Heartbeat.Proofs.Settings.Precedence
import Heartbeat.Proofs.CommandLine.Verbatim
import Heartbeat.Proofs.Settings.Overrides
import Heartbeat.Proofs.Reporter.Overrides
import Heartbeat.Proofs.Delivery.Announcing
import Heartbeat.Proofs.Log.Levels
import Heartbeat.Proofs.Log.History
