import ClassLens.Check.Files
import ClassLens.Check.Report
import ClassLens.CommandLine
import ClassLens.Component.Basic
import ClassLens.Component.Render
import ClassLens.Config
import ClassLens.Disk
import ClassLens.Document.Attribute
import ClassLens.Document.Basic
import ClassLens.Domain.Basic
import ClassLens.Domain.Classes
import ClassLens.Domain.Composed
import ClassLens.Domain.Mapping
import ClassLens.Domain.MappingLines
import ClassLens.Domain.Punycode
import ClassLens.Editor.Completion
import ClassLens.Editor.Lookup
import ClassLens.Editor.Unknown
import ClassLens.Editor.Wire
import ClassLens.Engine.Basic
import ClassLens.Engine.Debouncer
import ClassLens.Engine.Flight
import ClassLens.Engine.Index
import ClassLens.Engine.Run
import ClassLens.Engine.Task
import ClassLens.Fault
import ClassLens.Glob
import ClassLens.Import.Resolve
import ClassLens.Import.Scan
import ClassLens.Import.Statement
import ClassLens.Json.Basic
import ClassLens.Json.Parser
import ClassLens.Json.Printer
import ClassLens.Main
import ClassLens.Path.Basic
import ClassLens.Path.Normal
import ClassLens.Proofs.Check.Files
import ClassLens.Proofs.Check.Independence
import ClassLens.Proofs.Check.Repeats
import ClassLens.Proofs.Component.Alike
import ClassLens.Proofs.Component.FirstOccurrence
import ClassLens.Proofs.Debouncer.Generations
import ClassLens.Proofs.Debouncer.History
import ClassLens.Proofs.Debouncer.TrailingEdge
import ClassLens.Proofs.Disk.Files
import ClassLens.Proofs.Disk.Reaching
import ClassLens.Proofs.Disk.Spelling
import ClassLens.Proofs.Document.Names
import ClassLens.Proofs.Document.Places
import ClassLens.Proofs.Document.Positions
import ClassLens.Proofs.Document.Spans
import ClassLens.Proofs.Document.Tokens
import ClassLens.Proofs.Document.Values
import ClassLens.Proofs.Editor.Agreement
import ClassLens.Proofs.Editor.Apart
import ClassLens.Proofs.Editor.Landing
import ClassLens.Proofs.Editor.Replacing
import ClassLens.Proofs.Editor.Resolving
import ClassLens.Proofs.Editor.Sources
import ClassLens.Proofs.Editor.Unknown
import ClassLens.Proofs.Editor.Usages
import ClassLens.Proofs.Engine.AtOnce
import ClassLens.Proofs.Engine.Built
import ClassLens.Proofs.Engine.Interleaving
import ClassLens.Proofs.Engine.Invalidation
import ClassLens.Proofs.Engine.Keeping
import ClassLens.Proofs.Engine.Rebuilding
import ClassLens.Proofs.Engine.Removal
import ClassLens.Proofs.Engine.Tasks
import ClassLens.Proofs.Engine.Transparency
import ClassLens.Proofs.Flight.Moves
import ClassLens.Proofs.Flight.Sharing
import ClassLens.Proofs.Flight.Turns
import ClassLens.Proofs.Import.Confinement
import ClassLens.Proofs.Import.Keys
import ClassLens.Proofs.Import.Lines
import ClassLens.Proofs.Import.Resolve
import ClassLens.Proofs.Index.Freshness
import ClassLens.Proofs.Index.Gathering
import ClassLens.Proofs.Index.Holdings
import ClassLens.Proofs.Index.Links
import ClassLens.Proofs.Index.Trust
import ClassLens.Proofs.Path.Beginnings
import ClassLens.Proofs.Path.Joining
import ClassLens.Proofs.Path.Normal
import ClassLens.Proofs.Path.Order
import ClassLens.Proofs.Server.Reports
import ClassLens.Proofs.Stylesheet.Blanking
import ClassLens.Proofs.Stylesheet.Bytewise
import ClassLens.Proofs.Stylesheet.Classes
import ClassLens.Proofs.Stylesheet.Comments
import ClassLens.Proofs.Stylesheet.NestedBodies
import ClassLens.Proofs.Stylesheet.Nesting
import ClassLens.Proofs.Stylesheet.Offsets
import ClassLens.Proofs.Stylesheet.Rendering
import ClassLens.Proofs.Stylesheet.Scanning
import ClassLens.Proofs.Stylesheet.SelectorCuts
import ClassLens.Proofs.Stylesheet.SelectorLists
import ClassLens.Proofs.Stylesheet.SelectorTree
import ClassLens.Proofs.Stylesheet.SourceOrder
import ClassLens.Proofs.Stylesheet.Strings
import ClassLens.Proofs.Stylesheet.Structure
import ClassLens.Proofs.Stylesheet.Subjects
import ClassLens.Proofs.Stylesheet.Tree
import ClassLens.Proofs.Stylesheet.Verbatim
import ClassLens.Proofs.Table
import ClassLens.Proofs.Text.Encoding
import ClassLens.Proofs.Text.Order
import ClassLens.Proofs.Text.Split
import ClassLens.Proofs.Watch.Following
import ClassLens.Proofs.Watch.Renames
import ClassLens.Server.Basic
import ClassLens.Server.Capabilities
import ClassLens.Server.Method
import ClassLens.Server.Params
import ClassLens.Server.Shape
import ClassLens.Server.Transport
import ClassLens.Server.Unserved
import ClassLens.Stylesheet.Block
import ClassLens.Stylesheet.ClassName
import ClassLens.Stylesheet.Comment
import ClassLens.Stylesheet.Declarations
import ClassLens.Stylesheet.Definition
import ClassLens.Stylesheet.Extract
import ClassLens.Stylesheet.Media
import ClassLens.Stylesheet.Selector
import ClassLens.Stylesheet.Sheet
import ClassLens.Table
import ClassLens.Text.Basic
import ClassLens.Text.Blank
import ClassLens.Text.Hidden
import ClassLens.Text.Quoted
import ClassLens.Text.Utf8
import ClassLens.Text.Word
import ClassLens.Text.WordRanges
import ClassLens.Toml.Basic
import ClassLens.Toml.Parser
import ClassLens.Uri.Basic
import ClassLens.Uri.File
import ClassLens.Uri.Host
import ClassLens.Uri.Percent
import ClassLens.Watch.Basic
import ClassLens.Watch.Event
import ClassLens.Watch.Filter
import ClassLens.Watch.Poll
