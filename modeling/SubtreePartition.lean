import SubtreePartition.Ancestry
import SubtreePartition.Category.Boundaries
import SubtreePartition.Category.Bundled
import SubtreePartition.Category.Check
import SubtreePartition.Category.Closure
import SubtreePartition.Category.Hierarchy
import SubtreePartition.Category.Load
import SubtreePartition.Category.Set
import SubtreePartition.Command.Arguments
import SubtreePartition.Command.Basic
import SubtreePartition.Command.Bundled
import SubtreePartition.Command.Frame
import SubtreePartition.Command.Layout
import SubtreePartition.Command.Parse
import SubtreePartition.Command.Report
import SubtreePartition.Command.Run
import SubtreePartition.Command.Scope
import SubtreePartition.Copy
import SubtreePartition.Datum.Basic
import SubtreePartition.Datum.Calendar
import SubtreePartition.Datum.Check
import SubtreePartition.Datum.Integer
import SubtreePartition.Datum.Issue
import SubtreePartition.Datum.Written
import SubtreePartition.Event
import SubtreePartition.FilePath
import SubtreePartition.FileTree.Access
import SubtreePartition.FileTree.Basic
import SubtreePartition.FileTree.Change
import SubtreePartition.FileTree.Medium
import SubtreePartition.Gzip.BitReader
import SubtreePartition.Gzip.Checksum
import SubtreePartition.Gzip.Inflate
import SubtreePartition.Gzip.Member
import SubtreePartition.Gzip.PrefixCode
import SubtreePartition.Json.Reader
import SubtreePartition.Json.Value
import SubtreePartition.Library
import SubtreePartition.Main
import SubtreePartition.Markup.Basic
import SubtreePartition.Markup.Color
import SubtreePartition.Markup.Literal.Basic
import SubtreePartition.Markup.Literal.Token
import SubtreePartition.Markup.Look
import SubtreePartition.Markup.Pictograph
import SubtreePartition.Markup.Piece
import SubtreePartition.Number.Binary64
import SubtreePartition.Partition
import SubtreePartition.Pass
import SubtreePartition.Planner
import SubtreePartition.Proofs.Ancestry.Enter
import SubtreePartition.Proofs.Ancestry.Faithful
import SubtreePartition.Proofs.Ancestry.Follow
import SubtreePartition.Proofs.Ancestry.History
import SubtreePartition.Proofs.Ancestry.Reentry
import SubtreePartition.Proofs.Ancestry.Refusal
import SubtreePartition.Proofs.Ancestry.Shelter
import SubtreePartition.Proofs.Category.Bundled
import SubtreePartition.Proofs.Category.Closure
import SubtreePartition.Proofs.Category.Declared
import SubtreePartition.Proofs.Category.FirstResolve
import SubtreePartition.Proofs.Category.LeastClosure
import SubtreePartition.Proofs.Category.Load
import SubtreePartition.Proofs.Category.Outcome
import SubtreePartition.Proofs.Category.Resolve
import SubtreePartition.Proofs.Category.Schema
import SubtreePartition.Proofs.Category.Search
import SubtreePartition.Proofs.Category.Set
import SubtreePartition.Proofs.Command.Bundled
import SubtreePartition.Proofs.Command.Ending
import SubtreePartition.Proofs.Command.Frame
import SubtreePartition.Proofs.Copy.Cut
import SubtreePartition.Proofs.Copy.Holds
import SubtreePartition.Proofs.Copy.Step
import SubtreePartition.Proofs.Datum.Schema
import SubtreePartition.Proofs.Fallible
import SubtreePartition.Proofs.FilePath.Partition
import SubtreePartition.Proofs.FilePath.PartitionName
import SubtreePartition.Proofs.FileTree.Access
import SubtreePartition.Proofs.FileTree.Again
import SubtreePartition.Proofs.FileTree.Alike
import SubtreePartition.Proofs.FileTree.Bare
import SubtreePartition.Proofs.FileTree.Kept
import SubtreePartition.Proofs.FileTree.Making
import SubtreePartition.Proofs.FileTree.Open
import SubtreePartition.Proofs.Gzip.Forward
import SubtreePartition.Proofs.Gzip.RoundTrip
import SubtreePartition.Proofs.Gzip.Single
import SubtreePartition.Proofs.Gzip.Writer
import SubtreePartition.Proofs.Json.LongInteger
import SubtreePartition.Proofs.Json.Nesting
import SubtreePartition.Proofs.Json.RoundTrip
import SubtreePartition.Proofs.Json.Written
import SubtreePartition.Proofs.Markup.Label
import SubtreePartition.Proofs.Partition.Contents
import SubtreePartition.Proofs.Partition.Course
import SubtreePartition.Proofs.Partition.Holder
import SubtreePartition.Proofs.Partition.Publish
import SubtreePartition.Proofs.Pass.Alike
import SubtreePartition.Proofs.Pass.Balance
import SubtreePartition.Proofs.Pass.Bounds
import SubtreePartition.Proofs.Pass.Dealing
import SubtreePartition.Proofs.Pass.Greedy
import SubtreePartition.Proofs.Pass.Lenient
import SubtreePartition.Proofs.Pass.Monotone
import SubtreePartition.Proofs.Pass.Preorder
import SubtreePartition.Proofs.Pass.ProtectedRun
import SubtreePartition.Proofs.Pass.Visits
import SubtreePartition.Proofs.Record.Octets
import SubtreePartition.Proofs.Record.Outcome
import SubtreePartition.Proofs.Record.Path
import SubtreePartition.Proofs.Record.RoundTrip
import SubtreePartition.Proofs.Splitter.Again
import SubtreePartition.Proofs.Splitter.Alike
import SubtreePartition.Proofs.Splitter.Balance
import SubtreePartition.Proofs.Splitter.Bounds
import SubtreePartition.Proofs.Splitter.Commute
import SubtreePartition.Proofs.Splitter.Compression
import SubtreePartition.Proofs.Splitter.Frame
import SubtreePartition.Proofs.Splitter.Greedy
import SubtreePartition.Proofs.Splitter.InStep
import SubtreePartition.Proofs.Splitter.Integrity
import SubtreePartition.Proofs.Splitter.Kept
import SubtreePartition.Proofs.Splitter.Lenient
import SubtreePartition.Proofs.Splitter.Lossless
import SubtreePartition.Proofs.Splitter.Monotone
import SubtreePartition.Proofs.Splitter.Prefix
import SubtreePartition.Proofs.Splitter.Run
import SubtreePartition.Proofs.Splitter.Skip
import SubtreePartition.Proofs.Store.Content
import SubtreePartition.Proofs.Store.Joined
import SubtreePartition.Proofs.Store.Lines
import SubtreePartition.Proofs.Store.TrueSize
import SubtreePartition.Proofs.Text.Basic
import SubtreePartition.Proofs.Text.Decimal
import SubtreePartition.Proofs.Text.Escape
import SubtreePartition.Proofs.Text.Feed
import SubtreePartition.Proofs.Text.LineEnd
import SubtreePartition.Proofs.Text.Strict
import SubtreePartition.Proofs.Text.Utf8
import SubtreePartition.Proofs.Worker.Again
import SubtreePartition.Proofs.Worker.Kept
import SubtreePartition.Proofs.Worker.Loop
import SubtreePartition.Proofs.Worker.Phases
import SubtreePartition.Proofs.Worker.Session
import SubtreePartition.Proofs.Worker.Sound
import SubtreePartition.Proofs.Yaml.Source
import SubtreePartition.Record.Basic
import SubtreePartition.Record.Line
import SubtreePartition.Settings
import SubtreePartition.Size
import SubtreePartition.Splitter
import SubtreePartition.Store
import SubtreePartition.Text.Basic
import SubtreePartition.Text.Case
import SubtreePartition.Text.Decimal
import SubtreePartition.Text.Feed
import SubtreePartition.Text.LineEnd
import SubtreePartition.Text.Numeral
import SubtreePartition.Text.Printable
import SubtreePartition.Text.Quoted
import SubtreePartition.Text.Utf8
import SubtreePartition.Text.Width
import SubtreePartition.Text.Word
import SubtreePartition.Worker
import SubtreePartition.Yaml.Base64
import SubtreePartition.Yaml.Block
import SubtreePartition.Yaml.Cursor
import SubtreePartition.Yaml.Document
import SubtreePartition.Yaml.Fault
import SubtreePartition.Yaml.Integer
import SubtreePartition.Yaml.Making
import SubtreePartition.Yaml.Node
import SubtreePartition.Yaml.Node.Reader
import SubtreePartition.Yaml.Plain
import SubtreePartition.Yaml.Property
import SubtreePartition.Yaml.Quoted
import SubtreePartition.Yaml.Real
import SubtreePartition.Yaml.Scalar
import SubtreePartition.Yaml.Source
import SubtreePartition.Yaml.Tag
import SubtreePartition.Yaml.Timestamp
import SubtreePartition.Yaml.Token
import SubtreePartition.Yaml.Token.Lexer
