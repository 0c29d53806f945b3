import LaunchBench.App.Descriptor
import LaunchBench.App.Load
import LaunchBench.App.Registry
import LaunchBench.Archive
import LaunchBench.Cli.Interface
import LaunchBench.Cli.Parse
import LaunchBench.Cli.Run
import LaunchBench.Cli.Suggest
import LaunchBench.Clock.Timestamp
import LaunchBench.Command.Builder
import LaunchBench.Command.Template
import LaunchBench.Decimal.Binary64
import LaunchBench.Decimal.Shortest
import LaunchBench.Digest.Sha256
import LaunchBench.Host.Control
import LaunchBench.Host.Errno
import LaunchBench.Host.Exec
import LaunchBench.Host.FileTree
import LaunchBench.Host.Process
import LaunchBench.Host.ProcessTable
import LaunchBench.Host.Scheduler
import LaunchBench.Host.Setup
import LaunchBench.Host.Signal
import LaunchBench.Host.Stream
import LaunchBench.Host.Tool
import LaunchBench.Host.Tools
import LaunchBench.Host.Utilities
import LaunchBench.HostPath
import LaunchBench.KeyMap
import LaunchBench.Log.File
import LaunchBench.Log.Signal
import LaunchBench.Log.Timing
import LaunchBench.Main
import LaunchBench.Measurement
import LaunchBench.Measurement.Log
import LaunchBench.Pattern.Automaton
import LaunchBench.Pattern.Class
import LaunchBench.Pattern.Compile
import LaunchBench.Pattern.Depth
import LaunchBench.Pattern.ErrorText
import LaunchBench.Pattern.Footprint
import LaunchBench.Pattern.Lower
import LaunchBench.Pattern.Node
import LaunchBench.Pattern.Property
import LaunchBench.Pattern.Reader
import LaunchBench.Pattern.Syntax
import LaunchBench.Pattern.Unicode.Age
import LaunchBench.Pattern.Unicode.Binary
import LaunchBench.Pattern.Unicode.Binary1
import LaunchBench.Pattern.Unicode.Binary2
import LaunchBench.Pattern.Unicode.Binary3
import LaunchBench.Pattern.Unicode.Boundary
import LaunchBench.Pattern.Unicode.CaseFold
import LaunchBench.Pattern.Unicode.Category
import LaunchBench.Pattern.Unicode.Script
import LaunchBench.Pattern.Unicode.ScriptExtension
import LaunchBench.Pattern.Unicode.Word
import LaunchBench.Platform
import LaunchBench.Probe.Prober
import LaunchBench.Probe.Url
import LaunchBench.Proofs.CommandBuild
import LaunchBench.Proofs.Descendants
import LaunchBench.Proofs.Lifecycle
import LaunchBench.Proofs.LogArchive
import LaunchBench.Proofs.MeasurementEntry
import LaunchBench.Proofs.ContentProbe
import LaunchBench.Proofs.PortProbe
import LaunchBench.Proofs.MeasurementRefusal
import LaunchBench.Proofs.MeasurementTable
import LaunchBench.Proofs.OffendingLines
import LaunchBench.Proofs.Paths
import LaunchBench.Proofs.PatternSearch
import LaunchBench.Proofs.ProcessStop
import LaunchBench.Proofs.RegistryLookup
import LaunchBench.Proofs.ReportedTimes
import LaunchBench.Proofs.SettingLayers
import LaunchBench.Proofs.SettingValues
import LaunchBench.Proofs.SettingsText
import LaunchBench.Proofs.SortedKeys
import LaunchBench.Proofs.Stage
import LaunchBench.Proofs.TextLines
import LaunchBench.Proofs.ThresholdFile
import LaunchBench.Proofs.ThresholdGate
import LaunchBench.Proofs.ThresholdOverrides
import LaunchBench.Proofs.TrimmedMean
import LaunchBench.Proofs.Workspace
import LaunchBench.Report
import LaunchBench.Sampling
import LaunchBench.Scenario.Error
import LaunchBench.Scenario.Run
import LaunchBench.Scenario.Stages
import LaunchBench.Scenario.Workspace
import LaunchBench.Settings.Basic
import LaunchBench.Settings.File
import LaunchBench.Settings.Key
import LaunchBench.Settings.Parse
import LaunchBench.Shell.Builtins
import LaunchBench.Shell.Expand
import LaunchBench.Shell.Format
import LaunchBench.Shell.Glob
import LaunchBench.Shell.Lexer
import LaunchBench.Shell.Machine
import LaunchBench.Shell.Parser
import LaunchBench.Shell.State
import LaunchBench.Shell.Syntax
import LaunchBench.Shell.Vars
import LaunchBench.Supervisor
import LaunchBench.Text.Alphabetic
import LaunchBench.Text.Blank
import LaunchBench.Text.Json
import LaunchBench.Text.Lines
import LaunchBench.Text.Numeral
import LaunchBench.Text.Printable
import LaunchBench.Text.Quoted
import LaunchBench.Text.RangeTable
import LaunchBench.Text.UpperCase
import LaunchBench.Text.Utf8
import LaunchBench.Text.Utf8Ranges
import LaunchBench.Threshold
import LaunchBench.Toml.Decode
import LaunchBench.Toml.Document
import LaunchBench.Toml.Node
import LaunchBench.Toml.Reader
import LaunchBench.Toml.Syntax
import LaunchBench.Whitelist
import LaunchBench.Proofs.TreeEdits
import LaunchBench.Proofs.ToolNumbers
import LaunchBench.Proofs.BodyExcerpt
import LaunchBench.Proofs.SourceCopy
import LaunchBench.Proofs.BundleNames
