import ModuleGraph.Binary64
import ModuleGraph.Builtins
import ModuleGraph.Builtins.Core
import ModuleGraph.Category
import ModuleGraph.Command
import ModuleGraph.CommandLine
import ModuleGraph.CommandLine.Help
import ModuleGraph.Config
import ModuleGraph.Context
import ModuleGraph.Diagnostics
import ModuleGraph.Environment
import ModuleGraph.Fact
import ModuleGraph.Failure
import ModuleGraph.FileSystem
import ModuleGraph.Journal
import ModuleGraph.Json.Basic
import ModuleGraph.Json.Bounds
import ModuleGraph.Json.Decode
import ModuleGraph.Json.Display
import ModuleGraph.Json.Elements
import ModuleGraph.Json.Order
import ModuleGraph.Json.Printer
import ModuleGraph.Json.Reader
import ModuleGraph.Json.Stored
import ModuleGraph.KindCount
import ModuleGraph.Main
import ModuleGraph.Module.Basic
import ModuleGraph.Module.Directory
import ModuleGraph.Module.Name
import ModuleGraph.Path
import ModuleGraph.Plugin.Files
import ModuleGraph.Plugin.Parent
import ModuleGraph.Plugin.Pattern
import ModuleGraph.Reading.Basic
import ModuleGraph.Reading.Construct
import ModuleGraph.Reading.Tree
import ModuleGraph.Registry
import ModuleGraph.Resolution
import ModuleGraph.RunSort
import ModuleGraph.RunSort.Merge
import ModuleGraph.RunSort.Search
import ModuleGraph.Scan
import ModuleGraph.Session
import ModuleGraph.Session.Label
import ModuleGraph.Session.Resolving
import ModuleGraph.Snapshot
import ModuleGraph.Syntax.Decode
import ModuleGraph.Syntax.Depth
import ModuleGraph.Syntax.Dump
import ModuleGraph.Syntax.Node
import ModuleGraph.Table
import ModuleGraph.Text.Blank
import ModuleGraph.Text.CodePoint
import ModuleGraph.Text.Fill
import ModuleGraph.Text.Integer
import ModuleGraph.Text.LowerCase
import ModuleGraph.Text.Order
import ModuleGraph.Text.Printable
import ModuleGraph.Text.Quoted
import ModuleGraph.Text.Ranges
import ModuleGraph.Text.Search
import ModuleGraph.Text.Utf8
import ModuleGraph.Text.Width
import ModuleGraph.Text.Word
import ModuleGraph.Toml
import ModuleGraph.Warning
import ModuleGraph.Warning.Statement
import ModuleGraph.Workspace
import ModuleGraph.Proofs.Ascending
import ModuleGraph.Proofs.Definitions
import ModuleGraph.Proofs.DirectDependencies
import ModuleGraph.Proofs.Aliases
import ModuleGraph.Proofs.Closure
import ModuleGraph.Proofs.Exploration
import ModuleGraph.Proofs.Reachability
import ModuleGraph.Proofs.Recording
import ModuleGraph.Proofs.Snapshots
import ModuleGraph.Proofs.Sources
import ModuleGraph.Proofs.Agreement
import ModuleGraph.Proofs.Seeding
import ModuleGraph.Proofs.Rescanning
import ModuleGraph.Proofs.Places
import ModuleGraph.Proofs.Designations
import ModuleGraph.Proofs.LocalFacts
import ModuleGraph.Proofs.Walking
import ModuleGraph.Proofs.Arguments
import ModuleGraph.Proofs.KnownWarnings
import ModuleGraph.Proofs.Scanning
import ModuleGraph.Proofs.Sayings
import ModuleGraph.Proofs.Deafness
import ModuleGraph.Proofs.Operations
import ModuleGraph.Proofs.Suppression
import ModuleGraph.Proofs.Storing
import ModuleGraph.Proofs.TornStatements
import ModuleGraph.Proofs.Reloading
import ModuleGraph.Proofs.Likeness
import ModuleGraph.Proofs.ScanOrder
import ModuleGraph.Proofs.Repetition
import ModuleGraph.Proofs.Grammar
import ModuleGraph.Proofs.JsonReading
import ModuleGraph.Proofs.SnapshotText
import ModuleGraph.Proofs.SnapshotReturn
import ModuleGraph.Proofs.BreadthFirst
import ModuleGraph.Proofs.Gathering
import ModuleGraph.Proofs.Accounting
import ModuleGraph.Proofs.StatedFacts
import ModuleGraph.Proofs.Courses
import ModuleGraph.Proofs.FirstDefinition
import ModuleGraph.Proofs.Meetings
import ModuleGraph.Proofs.LetterCase
import ModuleGraph.Proofs.ReferenceForms
import ModuleGraph.Proofs.ClassVariables
import ModuleGraph.Proofs.Revisits
import ModuleGraph.Proofs.InheritedNames
import ModuleGraph.Proofs.Descendants
import ModuleGraph.Proofs.Parentage
import ModuleGraph.Proofs.Shapes
import ModuleGraph.Proofs.Contents
import ModuleGraph.Proofs.Containment
import ModuleGraph.Proofs.Endings
import ModuleGraph.Proofs.Records
import ModuleGraph.Proofs.BuiltNodes
import ModuleGraph.Proofs.Announcements
import ModuleGraph.Proofs.Marks
import ModuleGraph.Proofs.WalkingTwice
import ModuleGraph.Proofs.Searching
import ModuleGraph.Proofs.ModulepathSettings
import ModuleGraph.Proofs.ParentDeclarations
import ModuleGraph.Proofs.PluginFacts
import ModuleGraph.Proofs.FileNames
import ModuleGraph.Proofs.RecordedNames
