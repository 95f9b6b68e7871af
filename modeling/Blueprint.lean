import Blueprint.CommandLine.Grammar
import Blueprint.CommandLine.Help
import Blueprint.CommandLine.Parse
import Blueprint.CommandLine.Place
import Blueprint.CommandLine.Run
import Blueprint.CommandLine.Session
import Blueprint.Decimal.Shortest
import Blueprint.Diff.Compact
import Blueprint.Diff.Script
import Blueprint.Digest.Sha256
import Blueprint.Disk.FileSystem
import Blueprint.Event
import Blueprint.Failure
import Blueprint.Graph.Basic
import Blueprint.Graph.Edge
import Blueprint.Graph.Edit
import Blueprint.Graph.Finding
import Blueprint.Graph.Starter
import Blueprint.Graph.Validation
import Blueprint.Json.Decode
import Blueprint.Json.Fault
import Blueprint.Json.Number
import Blueprint.Json.Reader
import Blueprint.Json.Value
import Blueprint.Language.CSharp
import Blueprint.Main
import Blueprint.Output.FileSystem
import Blueprint.Output.Generate
import Blueprint.Output.Plan
import Blueprint.Output.Write
import Blueprint.Path
import Blueprint.Proofs.CommandLine.Deletion
import Blueprint.Proofs.CommandLine.Preview
import Blueprint.Proofs.CommandLine.Refusal
import Blueprint.Proofs.CommandLine.Status
import Blueprint.Proofs.CommandLine.Stream
import Blueprint.Proofs.Diff.Changes
import Blueprint.Proofs.Diff.Compact
import Blueprint.Proofs.Diff.Frontier
import Blueprint.Proofs.Diff.Middle
import Blueprint.Proofs.Diff.Script
import Blueprint.Proofs.Disk.Change
import Blueprint.Proofs.Disk.Frame
import Blueprint.Proofs.Disk.Lookup
import Blueprint.Proofs.Disk.Shape
import Blueprint.Proofs.Disk.Spelling
import Blueprint.Proofs.Event.Recovery
import Blueprint.Proofs.Event.Trace
import Blueprint.Proofs.Event.Verbosity
import Blueprint.Proofs.Except
import Blueprint.Proofs.Graph.Blocks
import Blueprint.Proofs.Graph.Ends
import Blueprint.Proofs.Graph.Identity
import Blueprint.Proofs.Graph.Issued
import Blueprint.Proofs.Graph.Reference
import Blueprint.Proofs.Graph.Removal
import Blueprint.Proofs.Graph.Renaming
import Blueprint.Proofs.Graph.Replay
import Blueprint.Proofs.Graph.Validation
import Blueprint.Proofs.Json.Gap
import Blueprint.Proofs.Json.Inversion
import Blueprint.Proofs.Json.Line
import Blueprint.Proofs.Json.Locality
import Blueprint.Proofs.Json.Members
import Blueprint.Proofs.Json.Numeral
import Blueprint.Proofs.Json.Printing
import Blueprint.Proofs.Json.Reading
import Blueprint.Proofs.Json.RoundTrip
import Blueprint.Proofs.Keyed
import Blueprint.Proofs.Language.Comment
import Blueprint.Proofs.Language.Locality
import Blueprint.Proofs.Language.Nesting
import Blueprint.Proofs.Language.Order
import Blueprint.Proofs.Language.Renaming
import Blueprint.Proofs.Language.Resolution
import Blueprint.Proofs.Language.Shown
import Blueprint.Proofs.Output.Balance
import Blueprint.Proofs.Output.Generate
import Blueprint.Proofs.Output.Isolation
import Blueprint.Proofs.Output.MemoryFiles
import Blueprint.Proofs.Output.MemoryHistory
import Blueprint.Proofs.Output.Plan
import Blueprint.Proofs.Output.Planning
import Blueprint.Proofs.Output.Resolve
import Blueprint.Proofs.Output.Settled
import Blueprint.Proofs.Output.Targets
import Blueprint.Proofs.Output.Write
import Blueprint.Proofs.Path
import Blueprint.Proofs.PathOrder
import Blueprint.Proofs.Settings.Choices
import Blueprint.Proofs.Settings.Layers
import Blueprint.Proofs.Settings.Override
import Blueprint.Proofs.Settings.Plain
import Blueprint.Proofs.Settings.Section
import Blueprint.Proofs.Settings.Suggestion
import Blueprint.Proofs.Settings.Unknown
import Blueprint.Proofs.Snapshot.Part
import Blueprint.Proofs.Snapshot.Records
import Blueprint.Proofs.Snapshot.Respelling
import Blueprint.Proofs.Snapshot.RoundTrip
import Blueprint.Proofs.Snapshot.Simulation
import Blueprint.Proofs.Snapshot.Version
import Blueprint.Proofs.Source.Layout
import Blueprint.Proofs.Source.Occurrences
import Blueprint.Proofs.Source.Path
import Blueprint.Proofs.Source.Repeats
import Blueprint.Proofs.Store.Agreement
import Blueprint.Proofs.Store.Atomicity
import Blueprint.Proofs.Store.Directory
import Blueprint.Proofs.Store.Listing
import Blueprint.Proofs.Store.Mirror
import Blueprint.Proofs.Store.Name
import Blueprint.Proofs.Store.OwnFile
import Blueprint.Proofs.Store.Reload
import Blueprint.Proofs.Terminal.Annotation
import Blueprint.Proofs.Terminal.Color
import Blueprint.Proofs.Terminal.Escapes
import Blueprint.Proofs.Terminal.FileDiff
import Blueprint.Proofs.Terminal.Grouping
import Blueprint.Proofs.Terminal.Markup
import Blueprint.Proofs.Terminal.Panel
import Blueprint.Proofs.Terminal.Solid
import Blueprint.Proofs.Text.Closest
import Blueprint.Proofs.Text.EditDistance
import Blueprint.Proofs.Text.Lines
import Blueprint.Proofs.Text.Rows
import Blueprint.Proofs.Text.Search
import Blueprint.Proofs.Toml.AllKeys
import Blueprint.Proofs.Toml.KeyPath
import Blueprint.Proofs.Toml.Overlay
import Blueprint.Proofs.Toml.Rest
import Blueprint.Proofs.Toml.Spelling
import Blueprint.Proofs.Toml.Written
import Blueprint.Proofs.Watch.Quiet
import Blueprint.Proofs.Watch.Step
import Blueprint.Proofs.Watch.Trace
import Blueprint.Settings.Basic
import Blueprint.Settings.Decode
import Blueprint.Settings.Load
import Blueprint.Settings.Override
import Blueprint.Snapshot.Decode
import Blueprint.Snapshot.Encode
import Blueprint.Snapshot.Text
import Blueprint.Source.File
import Blueprint.Source.Layout
import Blueprint.Store.Basic
import Blueprint.Store.Directory
import Blueprint.Store.Memory
import Blueprint.Store.Projects
import Blueprint.Terminal.Annotation
import Blueprint.Terminal.Block
import Blueprint.Terminal.Capabilities
import Blueprint.Terminal.Changes
import Blueprint.Terminal.Check
import Blueprint.Terminal.Icon
import Blueprint.Terminal.Ink
import Blueprint.Terminal.Inspection
import Blueprint.Terminal.Panel
import Blueprint.Terminal.ProjectList
import Blueprint.Terminal.Trouble
import Blueprint.Terminal.Watching
import Blueprint.Text.Basic
import Blueprint.Text.Case
import Blueprint.Text.CaseTable
import Blueprint.Text.CasedTable
import Blueprint.Text.EditDistance
import Blueprint.Text.PrintableTable
import Blueprint.Text.Quoted
import Blueprint.Text.Width
import Blueprint.Text.WidthTable
import Blueprint.Toml.Complaint
import Blueprint.Toml.Document
import Blueprint.Toml.Item
import Blueprint.Toml.Scalar
import Blueprint.Watch.Run
