import FilterGateway.Catalogue.Kind
import FilterGateway.Catalogue.Plugins
import FilterGateway.Cli.Arguments
import FilterGateway.Cli.Commands
import FilterGateway.Config.Basic
import FilterGateway.Config.Decode
import FilterGateway.Config.Directory
import FilterGateway.Config.Format
import FilterGateway.Config.Load
import FilterGateway.Config.Validation
import FilterGateway.Decimal.FloatStyle
import FilterGateway.Decimal.Scientific
import FilterGateway.Decimal.Shortest
import FilterGateway.Decimal.Stepwise
import FilterGateway.Filter.Build
import FilterGateway.Filter.Error
import FilterGateway.Filter.Manager
import FilterGateway.Filter.Plugin
import FilterGateway.Filter.Registry
import FilterGateway.IntWidth
import FilterGateway.Json.Basic
import FilterGateway.Json.Merge
import FilterGateway.Json.Printer
import FilterGateway.Live.Change
import FilterGateway.Live.Monitor
import FilterGateway.Live.ReloadLoop
import FilterGateway.Live.Runtime
import FilterGateway.Live.Service
import FilterGateway.Live.Shutdown
import FilterGateway.Live.Watcher
import FilterGateway.Main
import FilterGateway.Proofs.Binding.Datum
import FilterGateway.Proofs.Binding.Idempotence
import FilterGateway.Proofs.Binding.Leftover
import FilterGateway.Proofs.Binding.Paths
import FilterGateway.Proofs.Build.Attempts
import FilterGateway.Proofs.Build.Splitting
import FilterGateway.Proofs.Build.Steady
import FilterGateway.Proofs.Config.Settings
import FilterGateway.Proofs.Config.WrittenForm
import FilterGateway.Proofs.Ledger.Entries
import FilterGateway.Proofs.Ledger.Provenance
import FilterGateway.Proofs.Ledger.Recording
import FilterGateway.Proofs.Loop.Exit
import FilterGateway.Proofs.Loop.Schedule
import FilterGateway.Proofs.Loop.Updates
import FilterGateway.Proofs.Manager.Account
import FilterGateway.Proofs.Manager.Generation
import FilterGateway.Proofs.Manager.History
import FilterGateway.Proofs.Manager.Load
import FilterGateway.Proofs.Manager.Log
import FilterGateway.Proofs.Manager.Overlap
import FilterGateway.Proofs.Manager.Policies
import FilterGateway.Proofs.Registry.Naming
import FilterGateway.Proofs.Watch.Admission
import FilterGateway.Proofs.Watch.Emission
import FilterGateway.Proofs.Watch.Interleaving
import FilterGateway.Proofs.Watch.Remembered
import FilterGateway.Proofs.Watch.Restart
import FilterGateway.Proofs.Watch.Startup
import FilterGateway.Proofs.Watch.Verdict
import FilterGateway.Regex.Atom
import FilterGateway.Regex.Basic
import FilterGateway.Regex.CharSet
import FilterGateway.Regex.Flag
import FilterGateway.Regex.Reader
import FilterGateway.Shape.Basic
import FilterGateway.Shape.Bind
import FilterGateway.Shape.Decode
import FilterGateway.Shape.Encode
import FilterGateway.Shape.Error
import FilterGateway.Shape.Key
import FilterGateway.Table
import FilterGateway.Telemetry.Directive
import FilterGateway.Telemetry.Event
import FilterGateway.Telemetry.LogFilter
import FilterGateway.Telemetry.Metrics
import FilterGateway.Telemetry.Pattern
import FilterGateway.Text.Alphanumeric
import FilterGateway.Text.Blank
import FilterGateway.Text.Hex
import FilterGateway.Text.Printable
import FilterGateway.Text.Quoted
import FilterGateway.Toml.Datetime
import FilterGateway.Toml.Document
import FilterGateway.Toml.Line
import FilterGateway.Toml.Number
import FilterGateway.Toml.Reader
import FilterGateway.Toml.Text
import FilterGateway.Toml.Value
