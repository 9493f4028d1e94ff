import GridScript.Builtin.Case
import GridScript.Builtin.Export
import GridScript.Builtin.Project
import GridScript.Builtin.Reading
import GridScript.Builtin.Registry
import GridScript.Builtin.Snapshot
import GridScript.Command.Basic
import GridScript.Command.Error
import GridScript.Command.Field
import GridScript.Command.Registry
import GridScript.Command.Response
import GridScript.Disk.Basic
import GridScript.Disk.Path
import GridScript.Engine.Basic
import GridScript.Engine.Outcome
import GridScript.Engine.Recorder
import GridScript.Host.Application
import GridScript.Host.Export
import GridScript.Host.ExportKind
import GridScript.Host.Manifest
import GridScript.Host.Project
import GridScript.Host.Session
import GridScript.Host.Workspace
import GridScript.Json.Reader
import GridScript.Json.Writer
import GridScript.Main
import GridScript.Number.Binary64
import GridScript.Number.Format
import GridScript.Number.Numeral
import GridScript.Program.Basic
import GridScript.Program.Editing
import GridScript.Program.Request
import GridScript.Program.Shell
import GridScript.Script.Cursor
import GridScript.Script.Diagnostic
import GridScript.Script.Dialect
import GridScript.Script.Offset
import GridScript.Script.Parser
import GridScript.Script.Skip
import GridScript.Settings.Basic
import GridScript.Settings.File
import GridScript.Settings.Reader
import GridScript.Settings.Writer
import GridScript.Text.Basic
import GridScript.Text.Bytes
import GridScript.Text.Character
import GridScript.Text.Cluster
import GridScript.Text.ClusterRanges
import GridScript.Text.Hex
import GridScript.Text.Ranges
import GridScript.Toml.Basic
import GridScript.Toml.Number
import GridScript.Toml.Quoted
import GridScript.Toml.Reader
import GridScript.Value.Basic
import GridScript.Value.Reader
import GridScript.Value.Writer
import GridScript.Proofs.Characters
import GridScript.Proofs.Numerals
import GridScript.Proofs.Passing
import GridScript.Proofs.Typing
import GridScript.Proofs.ValueText
import GridScript.Proofs.Rereading
import GridScript.Proofs.Arguments
import GridScript.Proofs.CommandText
import GridScript.Proofs.RoundTrip
import GridScript.Proofs.Shifting
import GridScript.Proofs.Locality
import GridScript.Proofs.Prolonging
import GridScript.Proofs.Joining
import GridScript.Proofs.Recovery
import GridScript.Proofs.Isolation
import GridScript.Proofs.Straying
import GridScript.Proofs.Damage
import GridScript.Proofs.SameDisk
import GridScript.Proofs.Alike
import GridScript.Proofs.Builtins
import GridScript.Proofs.Frames
import GridScript.Proofs.Atomicity
import GridScript.Proofs.TypedReading
import GridScript.Proofs.Conformance
import GridScript.Proofs.Vocabulary
import GridScript.Proofs.Restating
import GridScript.Proofs.Recording
import GridScript.Proofs.LogText
import GridScript.Proofs.History
import GridScript.Proofs.Projects
import GridScript.Proofs.Sessions
import GridScript.Proofs.Replay
import GridScript.Proofs.InMemory
import GridScript.Proofs.Stopping
import GridScript.Proofs.Keeping
import GridScript.Proofs.Numbered
import GridScript.Proofs.Snapshots
import GridScript.Proofs.ReadAgain
import GridScript.Proofs.Dialects
import GridScript.Proofs.SourceOrder
import GridScript.Proofs.Moving
import GridScript.Proofs.Layout
import GridScript.Proofs.UnknownCommands
import GridScript.Proofs.Registration
import GridScript.Proofs.ValueRoundTrip
import GridScript.Proofs.Progress
import GridScript.Proofs.QuotedText
import GridScript.Proofs.TomlLines
import GridScript.Proofs.SettingsRoundTrip
import GridScript.Proofs.Growing
import GridScript.Proofs.Saving
import GridScript.Proofs.WellFiles
import GridScript.Proofs.GridSnapshots
import GridScript.Proofs.GridFiles
import GridScript.Proofs.GridRuns
import GridScript.Proofs.ViewLists
import GridScript.Proofs.Reopening
import GridScript.Proofs.ExportFolders
import GridScript.Proofs.MissingWells
import GridScript.Proofs.OwnText
import GridScript.Proofs.GivenArguments
import GridScript.Proofs.IdleArguments
import GridScript.Proofs.BareTokens
import GridScript.Proofs.PositionalArguments
import GridScript.Proofs.UnclosedLists
import GridScript.Proofs.Settling
import GridScript.Proofs.CommasInLists
import GridScript.Proofs.Integers
import GridScript.Proofs.Rounding
import GridScript.Proofs.Doubles
import GridScript.Proofs.FifteenDigits
import GridScript.Proofs.SettledDoubles
import GridScript.Proofs.StayingInFolders
import GridScript.Proofs.ScriptedExports
