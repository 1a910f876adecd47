import SyntaxSpans.Bisect
import SyntaxSpans.Category
import SyntaxSpans.CommandLine.Arguments
import SyntaxSpans.CommandLine.Execute
import SyntaxSpans.Decimal.Shortest
import SyntaxSpans.Exchange.Options
import SyntaxSpans.Exchange.Record
import SyntaxSpans.Fault
import SyntaxSpans.Files.Path
import SyntaxSpans.Files.Snapshot
import SyntaxSpans.Files.Volume
import SyntaxSpans.Json.Failure
import SyntaxSpans.Json.Number
import SyntaxSpans.Json.Reader
import SyntaxSpans.Json.Scan
import SyntaxSpans.Json.Skip
import SyntaxSpans.Json.Structure
import SyntaxSpans.Kinds.Grammar
import SyntaxSpans.Kinds.Registry
import SyntaxSpans.Kinds.Remarks
import SyntaxSpans.Kinds.Table
import SyntaxSpans.Language
import SyntaxSpans.Languages.CSharp
import SyntaxSpans.Languages.Java
import SyntaxSpans.Languages.Python
import SyntaxSpans.Languages.PythonContext
import SyntaxSpans.Log.Event
import SyntaxSpans.Log.Filter
import SyntaxSpans.Log.Logged
import SyntaxSpans.Log.Rule
import SyntaxSpans.Main
import SyntaxSpans.Names
import SyntaxSpans.Options
import SyntaxSpans.Proofs.CommandLine.Endings
import SyntaxSpans.Proofs.CommandLine.Positionals
import SyntaxSpans.Proofs.CommandLine.Selections
import SyntaxSpans.Proofs.Exchange.Layout
import SyntaxSpans.Proofs.Exchange.OptionsMembers
import SyntaxSpans.Proofs.Exchange.RecordMembers
import SyntaxSpans.Proofs.Json.Consumption
import SyntaxSpans.Proofs.Json.Members
import SyntaxSpans.Proofs.Json.Objects
import SyntaxSpans.Proofs.Json.Skipping
import SyntaxSpans.Proofs.Json.Spelling
import SyntaxSpans.Proofs.Json.Written
import SyntaxSpans.Proofs.Kinds.Agreement
import SyntaxSpans.Proofs.Kinds.Claims
import SyntaxSpans.Proofs.Kinds.NamesListed
import SyntaxSpans.Proofs.Kinds.NumbersListed
import SyntaxSpans.Proofs.Kinds.Separation
import SyntaxSpans.Proofs.Python.Declarations
import SyntaxSpans.Proofs.Python.Descent
import SyntaxSpans.Proofs.Python.Docstrings
import SyntaxSpans.Proofs.Python.LevelPattern
import SyntaxSpans.Proofs.Python.Levels
import SyntaxSpans.Proofs.Python.LooseComments
import SyntaxSpans.Proofs.Python.Statements
import SyntaxSpans.Proofs.Python.Visitor
import SyntaxSpans.Proofs.Report.Categories
import SyntaxSpans.Proofs.Report.Comments
import SyntaxSpans.Proofs.Report.Coverage
import SyntaxSpans.Proofs.Report.Declarations
import SyntaxSpans.Proofs.Report.Elements
import SyntaxSpans.Proofs.Report.Order
import SyntaxSpans.Proofs.Report.Selected
import SyntaxSpans.Proofs.Report.Units
import SyntaxSpans.Proofs.Run.Blocks
import SyntaxSpans.Proofs.Run.Cutoff
import SyntaxSpans.Proofs.Run.Reach
import SyntaxSpans.Proofs.Run.RecordLines
import SyntaxSpans.Proofs.Run.Selected
import SyntaxSpans.Proofs.Run.Strictness
import SyntaxSpans.Proofs.Run.Together
import SyntaxSpans.Proofs.Source.Content
import SyntaxSpans.Proofs.Source.Loading
import SyntaxSpans.Proofs.Text.CharSpans
import SyntaxSpans.Proofs.Text.Decoding
import SyntaxSpans.Proofs.Text.Lines
import SyntaxSpans.Proofs.Text.OffsetOrder
import SyntaxSpans.Proofs.Text.Sizes
import SyntaxSpans.Proofs.Text.Tables
import SyntaxSpans.Proofs.Text.Units
import SyntaxSpans.Proofs.Tree.Children
import SyntaxSpans.Proofs.Tree.Iteration
import SyntaxSpans.Proofs.Tree.Labels
import SyntaxSpans.Proofs.Tree.Placement
import SyntaxSpans.Proofs.Tree.Positions
import SyntaxSpans.Proofs.Tree.Preorder
import SyntaxSpans.Proofs.Tree.Pruning
import SyntaxSpans.Report
import SyntaxSpans.Run.Job
import SyntaxSpans.Run.Sink
import SyntaxSpans.Run.Summary
import SyntaxSpans.Selection
import SyntaxSpans.Selection.File
import SyntaxSpans.Source
import SyntaxSpans.Text.Blank
import SyntaxSpans.Text.Offsets
import SyntaxSpans.Text.Pattern
import SyntaxSpans.Text.Pattern.Bracket
import SyntaxSpans.Text.Pattern.Depth
import SyntaxSpans.Text.Pattern.Escape
import SyntaxSpans.Text.Pattern.Group
import SyntaxSpans.Text.Pattern.Mode
import SyntaxSpans.Text.Quoted
import SyntaxSpans.Text.Ranges
import SyntaxSpans.Text.Split
import SyntaxSpans.Text.Unseen
import SyntaxSpans.Text.Utf16
import SyntaxSpans.Text.Utf8
import SyntaxSpans.Text.Wordlike
import SyntaxSpans.Tree.Basic
import SyntaxSpans.Tree.Node
import SyntaxSpans.Tree.Outline
import SyntaxSpans.Tree.Walk
