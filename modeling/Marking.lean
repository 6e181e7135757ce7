import Marking.Codebase
import Marking.Codebase.Loading
import Marking.Codebase.Scan
import Marking.CommandLine
import Marking.CommandLine.Console
import Marking.CommandLine.Switch
import Marking.Declaration
import Marking.Delegate
import Marking.DependencyGraph
import Marking.DependencyGraph.EdgeMaps
import Marking.Description
import Marking.Description.Answer
import Marking.Description.Code
import Marking.Description.Setup
import Marking.Discovery
import Marking.Engine
import Marking.Entry
import Marking.Fault
import Marking.Folder
import Marking.Handler
import Marking.Journal
import Marking.Json
import Marking.Json.Reader
import Marking.Json.Writer
import Marking.Key
import Marking.Main
import Marking.Marker.Attachment
import Marking.Marker.Targets
import Marking.MergePolicy
import Marking.Number.Decimal
import Marking.Number.Double
import Marking.Number.Integer
import Marking.Number.Shortest
import Marking.Ordering
import Marking.Precedence
import Marking.Precedence.Components
import Marking.Precedence.Least
import Marking.Precedence.Passes
import Marking.Proofs.Codebase.Canonicity
import Marking.Proofs.Codebase.Collecting
import Marking.Proofs.DependencyGraph.BestEffort
import Marking.Proofs.DependencyGraph.Cycles
import Marking.Proofs.DependencyGraph.EdgeMaps
import Marking.Proofs.DependencyGraph.Edges
import Marking.Proofs.DependencyGraph.Forcing
import Marking.Proofs.DependencyGraph.Likeness
import Marking.Proofs.DependencyGraph.Modes
import Marking.Proofs.DependencyGraph.Nodes
import Marking.Proofs.DependencyGraph.Schedule
import Marking.Proofs.DependencyGraph.Strict
import Marking.Proofs.Discovery.Asking
import Marking.Proofs.Discovery.Bystanders
import Marking.Proofs.Discovery.Conversation
import Marking.Proofs.Discovery.Enlisting
import Marking.Proofs.Discovery.Exactness
import Marking.Proofs.Discovery.Faults
import Marking.Proofs.Discovery.Likeness
import Marking.Proofs.Engine.Accounting
import Marking.Proofs.Engine.Bystanders
import Marking.Proofs.Engine.Conservation
import Marking.Proofs.Engine.Contacts
import Marking.Proofs.Engine.Execution
import Marking.Proofs.Engine.FixedPoint
import Marking.Proofs.Engine.Frame
import Marking.Proofs.Engine.Headway
import Marking.Proofs.Engine.Interruption
import Marking.Proofs.Engine.Isolation
import Marking.Proofs.Engine.Ledger
import Marking.Proofs.Engine.Likeness
import Marking.Proofs.Engine.Order
import Marking.Proofs.Engine.Parallel
import Marking.Proofs.Engine.Phases
import Marking.Proofs.Engine.Planning
import Marking.Proofs.Engine.Projection
import Marking.Proofs.Engine.Recording
import Marking.Proofs.Engine.Reentry
import Marking.Proofs.Engine.Rounds
import Marking.Proofs.Engine.Running
import Marking.Proofs.Engine.Stations
import Marking.Proofs.Engine.Tracing
import Marking.Proofs.Engine.Truthfulness
import Marking.Proofs.Entry.Calls
import Marking.Proofs.Entry.Failures
import Marking.Proofs.Entry.History
import Marking.Proofs.Entry.Lifetime
import Marking.Proofs.Entry.Likeness
import Marking.Proofs.Entry.Passes
import Marking.Proofs.Entry.Progress
import Marking.Proofs.Entry.Stopping
import Marking.Proofs.Entry.Tally
import Marking.Proofs.Key.Distinct
import Marking.Proofs.Marker.Targets
import Marking.Proofs.Ordering.Extension
import Marking.Proofs.Ordering.Placement
import Marking.Proofs.Ordering.Refusal
import Marking.Proofs.Precedence.Acyclicity
import Marking.Proofs.Precedence.Components
import Marking.Proofs.Precedence.Dictionary
import Marking.Proofs.Precedence.Extensions
import Marking.Proofs.Precedence.Forcing
import Marking.Proofs.Precedence.Knots
import Marking.Proofs.Precedence.Least
import Marking.Proofs.Precedence.Passes
import Marking.Proofs.Precedence.Reachability
import Marking.Proofs.Precedence.Search
import Marking.Proofs.Precedence.Sweeps
import Marking.Proofs.Precedence.Unmet
import Marking.Proofs.Registry.Halves
import Marking.Proofs.Registry.Loading
import Marking.Proofs.Registry.Repetition
import Marking.Proofs.Registry.Replay
import Marking.Proofs.Registry.Storing
import Marking.Proofs.Report.Missing
import Marking.Proofs.Report.Views
import Marking.Proofs.Scope.Nesting
import Marking.Proofs.Settings.Reading
import Marking.Proofs.Settings.RoundTrip
import Marking.Proofs.TypeRegistry.Injectors
import Marking.Proofs.UnitTable.Fold
import Marking.Proofs.UnitTable.KeyedFold
import Marking.Proofs.UnitTable.Likeness
import Marking.Proofs.UnitTable.Shelving
import Marking.Proofs.Value.Writing
import Marking.Proofs.World.Beside
import Marking.Registry
import Marking.Registry.Published
import Marking.Report
import Marking.Scanner
import Marking.Scope
import Marking.Script
import Marking.Script.Errand
import Marking.Settings
import Marking.Settings.Document
import Marking.Settings.Draft
import Marking.Text.Blank
import Marking.Text.Cased
import Marking.Text.Digit
import Marking.Text.Dotted
import Marking.Text.Emoji
import Marking.Text.Emoji.Table
import Marking.Text.Half
import Marking.Text.Lower
import Marking.Text.Markup
import Marking.Text.Printable
import Marking.Text.Quoted
import Marking.Text.Similarity
import Marking.Text.Style
import Marking.TypeRegistry
import Marking.UnitTable
import Marking.UnitTable.Shared
import Marking.Value
import Marking.Value.Arrangement
import Marking.Value.Attribute
import Marking.Value.Equality
import Marking.Value.Integer
import Marking.Value.Moment
import Marking.Value.Text
import Marking.WorkUnit
import Marking.World
import Marking.Yaml
import Marking.Yaml.Assembly
import Marking.Yaml.Cursor
import Marking.Yaml.Node
import Marking.Yaml.Page
import Marking.Yaml.Scalar
import Marking.Yaml.Stamp
import Marking.Yaml.Tag
import Marking.Yaml.Token
import Marking.Yaml.Token.Lexer
import Marking.Yaml.Token.Scalar
import Marking.Yaml.Writer
