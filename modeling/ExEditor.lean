import ExEditor.Address.Calculator
import ExEditor.Address.Range
import ExEditor.Address.Resolve
import ExEditor.Address.Scan
import ExEditor.Command.Parse
import ExEditor.Command.Verb
import ExEditor.Disk.FileTree
import ExEditor.Disk.Path
import ExEditor.Failure
import ExEditor.Frame.Basic
import ExEditor.Frame.Edit
import ExEditor.Frame.Find
import ExEditor.Frame.LineSpan
import ExEditor.Frame.Position
import ExEditor.Frame.Sort
import ExEditor.Host
import ExEditor.Json.Basic
import ExEditor.Json.Reader
import ExEditor.Json.Writer
import ExEditor.Main
import ExEditor.Mark
import ExEditor.Mode
import ExEditor.Pattern.Basic
import ExEditor.Pattern.Budget
import ExEditor.Pattern.ClassName
import ExEditor.Pattern.Look
import ExEditor.Pattern.Meaning
import ExEditor.Pattern.Program
import ExEditor.Pattern.Reader
import ExEditor.Pattern.Reader.Escape
import ExEditor.Pattern.Reader.Scan
import ExEditor.Pattern.Reader.Set
import ExEditor.Pattern.Search
import ExEditor.Pattern.Tree
import ExEditor.Pattern.Utf8
import ExEditor.Program.Arguments
import ExEditor.Program.Input
import ExEditor.Program.Run
import ExEditor.Recorder
import ExEditor.Register
import ExEditor.Session.Basic
import ExEditor.Session.Execute
import ExEditor.Session.LineVerbs
import ExEditor.Session.Nested
import ExEditor.Session.StateVerbs
import ExEditor.Session.Typing
import ExEditor.Settings
import ExEditor.Shell.Arithmetic
import ExEditor.Shell.Command
import ExEditor.Shell.Condition
import ExEditor.Shell.Decimal
import ExEditor.Shell.Expansion
import ExEditor.Shell.Expression.Basic
import ExEditor.Shell.Expression.Reader
import ExEditor.Shell.Glob
import ExEditor.Shell.Printf
import ExEditor.Shell.Process
import ExEditor.Shell.Quoting
import ExEditor.Shell.Reader
import ExEditor.Shell.Record.Program
import ExEditor.Shell.Record.Reader
import ExEditor.Shell.Record.Run
import ExEditor.Shell.Record.Value
import ExEditor.Shell.Run
import ExEditor.Shell.Script.Program
import ExEditor.Shell.Script.Reader
import ExEditor.Shell.Script.Run
import ExEditor.Shell.State
import ExEditor.Shell.Token
import ExEditor.Shell.Tool
import ExEditor.Shell.Tool.Bytes
import ExEditor.Shell.Tool.Calculation
import ExEditor.Shell.Tool.Digest
import ExEditor.Shell.Tool.Files
import ExEditor.Shell.Tool.Letters
import ExEditor.Shell.Tool.Lines
import ExEditor.Shell.Tool.Merge
import ExEditor.Shell.Tool.Numbers
import ExEditor.Shell.Tool.Options
import ExEditor.Shell.Tool.Order
import ExEditor.Shell.Tool.Search
import ExEditor.Store.Basic
import ExEditor.Store.Document
import ExEditor.Store.Shelf
import ExEditor.Substitution.Basic
import ExEditor.Substitution.Run
import ExEditor.Text.Basic
import ExEditor.Text.Decoding
import ExEditor.Text.Lines
import ExEditor.Text.Word
import ExEditor.Unicode.Age
import ExEditor.Unicode.Alphabetic
import ExEditor.Unicode.Ranges
import ExEditor.Unicode.Case
import ExEditor.Unicode.Category
import ExEditor.Unicode.Folding
import ExEditor.Unicode.Number
import ExEditor.Unicode.Property
import ExEditor.Unicode.Script
import ExEditor.Unicode.Segmentation
import ExEditor.Unicode.Word
import ExEditor.Variable.Basic
import ExEditor.Variable.Clock
import ExEditor.Variable.DateFormat
import ExEditor.Variable.Expand
import ExEditor.Proofs.Disk.FileTree
import ExEditor.Proofs.Json.RoundTrip
import ExEditor.Proofs.Store.Table
import ExEditor.Proofs.Store.Document
import ExEditor.Proofs.Store.Shelf
import ExEditor.Proofs.Text.LineList
import ExEditor.Proofs.Text.Rows
import ExEditor.Proofs.Text.Feeds
import ExEditor.Proofs.Text.Trim
import ExEditor.Proofs.Pattern.Matches
import ExEditor.Proofs.Frame.Edited
import ExEditor.Proofs.Frame.LineVerbs
import ExEditor.Proofs.Frame.Tracks
import ExEditor.Proofs.Frame.Present
import ExEditor.Proofs.Frame.Rows
import ExEditor.Proofs.Frame.InsideLines
import ExEditor.Proofs.Frame.WholeLines
import ExEditor.Proofs.Substitution.Accepted
import ExEditor.Proofs.Substitution.Run
import ExEditor.Proofs.Substitution.Moves
import ExEditor.Proofs.Address.Resolve
import ExEditor.Proofs.Address.Bounds
import ExEditor.Proofs.Command.Parse
import ExEditor.Proofs.Session.Calls
import ExEditor.Proofs.Session.Recursion
import ExEditor.Proofs.Session.Change
import ExEditor.Proofs.Session.Dispatch
import ExEditor.Proofs.Session.Failure
import ExEditor.Proofs.Session.LineVerbs
import ExEditor.Proofs.Session.LineMoves
import ExEditor.Proofs.Session.Steps
import ExEditor.Proofs.Session.Stepwise
import ExEditor.Proofs.Session.Sealed
import ExEditor.Proofs.Session.Stacked
import ExEditor.Proofs.Session.Undo
import ExEditor.Proofs.Session.InStep
import ExEditor.Proofs.Session.KeepStep
import ExEditor.Proofs.Session.Typed
import ExEditor.Proofs.Session.Visits
import ExEditor.Proofs.Session.Filter
import ExEditor.Proofs.Register
import ExEditor.Proofs.Frame.PutBack
import ExEditor.Proofs.Session.WholeLines
import ExEditor.Proofs.Session.Replies
import ExEditor.Proofs.Substitution.Cancelled
import ExEditor.Proofs.Substitution.Passes
import ExEditor.Proofs.Session.Cancelled
import ExEditor.Proofs.Address.Written
import ExEditor.Proofs.Command.Written
import ExEditor.Proofs.Substitution.Fields
import ExEditor.Proofs.Frame.OpenEnd
import ExEditor.Proofs.Frame.Uniform
import ExEditor.Proofs.Session.Uniform
import ExEditor.Proofs.Text.Uniform
import ExEditor.Proofs.Unicode.Word
import ExEditor.Proofs.Text.Offsets
import ExEditor.Proofs.Pattern.Paths
import ExEditor.Proofs.Pattern.Leftmost
import ExEditor.Proofs.Pattern.Local
import ExEditor.Proofs.Pattern.Lines
import ExEditor.Proofs.Address.Search
import ExEditor.Proofs.Address.Expression
import ExEditor.Proofs.Address.Calculator
import ExEditor.Proofs.Address.Division
import ExEditor.Proofs.Frame.History
import ExEditor.Proofs.Session.Recorded
import ExEditor.Proofs.Carried
import ExEditor.Proofs.Session.Relay
import ExEditor.Proofs.Session.Captured
import ExEditor.Proofs.Session.FrameVerbs
import ExEditor.Proofs.Text.Places
import ExEditor.Proofs.Frame.UserMarks
import ExEditor.Proofs.Frame.LineEdit
import ExEditor.Proofs.Substitution.Plain
import ExEditor.Proofs.Session.UserMarks
import ExEditor.Proofs.Frame.Sort
import ExEditor.Proofs.Frame.Shift
import ExEditor.Proofs.Variable.Nesting
import ExEditor.Proofs.Variable.Template
import ExEditor.Proofs.Variable.Recursion
import ExEditor.Proofs.Session.Overtype
import ExEditor.Proofs.Session.Stays
import ExEditor.Proofs.Variable.Asked
import ExEditor.Proofs.Session.SearchHistory
import ExEditor.Proofs.Settings
import ExEditor.Proofs.Store.Mappings
import ExEditor.Proofs.Session.StateVerbs
import ExEditor.Proofs.Frame.Positions
import ExEditor.Proofs.Session.Files
import ExEditor.Proofs.Program.Run
import ExEditor.Proofs.Frame.Partition
import ExEditor.Proofs.Substitution.Replacement
