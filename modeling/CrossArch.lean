import CrossArch.Aggregate
import CrossArch.Architecture
import CrossArch.Assembly.Block
import CrossArch.Assembly.Opener
import CrossArch.Assembly.Whitelist
import CrossArch.Catalog
import CrossArch.CommandLine.Arguments
import CrossArch.CommandLine.Run
import CrossArch.CommandLine.Usage
import CrossArch.Comment
import CrossArch.Conditional.Directive
import CrossArch.Conditional.Segment
import CrossArch.Config.File
import CrossArch.Config.Resolve
import CrossArch.Files.Category
import CrossArch.Files.Classify
import CrossArch.Files.Exclude
import CrossArch.Files.Path
import CrossArch.Files.Tree
import CrossArch.Files.Walk
import CrossArch.Finding
import CrossArch.Hit.Basic
import CrossArch.Hit.Key
import CrossArch.Hit.Line
import CrossArch.Hit.Makefile
import CrossArch.Hit.Source
import CrossArch.Json.Printer
import CrossArch.Json.Reader
import CrossArch.Json.Value
import CrossArch.Library
import CrossArch.Log
import CrossArch.Log.Filter
import CrossArch.Main
import CrossArch.Proofs.Aggregate
import CrossArch.Proofs.Aggregate.Run
import CrossArch.Proofs.Assembly.Awaiting
import CrossArch.Proofs.Assembly.Extent
import CrossArch.Proofs.Assembly.LineEnding
import CrossArch.Proofs.Assembly.LineLoop
import CrossArch.Proofs.Assembly.Mask
import CrossArch.Proofs.Assembly.Mnemonic
import CrossArch.Proofs.Assembly.Notes
import CrossArch.Proofs.Assembly.OpenerPattern
import CrossArch.Proofs.Assembly.OpenerReturn
import CrossArch.Proofs.Assembly.OpenerWords
import CrossArch.Proofs.Assembly.Order
import CrossArch.Proofs.Assembly.Reading
import CrossArch.Proofs.Assembly.ReadingReturn
import CrossArch.Proofs.Assembly.SplitOpener
import CrossArch.Proofs.Assembly.Whitelist
import CrossArch.Proofs.Comment.Blocks
import CrossArch.Proofs.Comment.Clean
import CrossArch.Proofs.Comment.Cursor
import CrossArch.Proofs.Comment.Idempotence
import CrossArch.Proofs.Comment.LineMarker
import CrossArch.Proofs.Comment.Lines
import CrossArch.Proofs.Comment.Progress
import CrossArch.Proofs.Comment.Rejoin
import CrossArch.Proofs.Comment.Resume
import CrossArch.Proofs.Comment.Truncation
import CrossArch.Proofs.Comment.Turn
import CrossArch.Proofs.Conditional.Closed
import CrossArch.Proofs.Conditional.Destination
import CrossArch.Proofs.Conditional.Grouping
import CrossArch.Proofs.Conditional.LineGrammar
import CrossArch.Proofs.Conditional.LineParse
import CrossArch.Proofs.Conditional.MacroPattern
import CrossArch.Proofs.Conditional.Nesting
import CrossArch.Proofs.Conditional.Order
import CrossArch.Proofs.Conditional.Search
import CrossArch.Proofs.Files.Classify
import CrossArch.Proofs.Files.Enter
import CrossArch.Proofs.Files.GitDirectory
import CrossArch.Proofs.Files.Listing
import CrossArch.Proofs.Files.Order
import CrossArch.Proofs.Files.Path
import CrossArch.Proofs.Files.SharedObject
import CrossArch.Proofs.Files.Subtree
import CrossArch.Proofs.Files.WalkOrder
import CrossArch.Proofs.Hit.AddedRule
import CrossArch.Proofs.Hit.Key
import CrossArch.Proofs.Hit.Line
import CrossArch.Proofs.Hit.Makefile
import CrossArch.Proofs.Hit.MakefilePattern
import CrossArch.Proofs.Hit.Opener
import CrossArch.Proofs.Hit.Pattern
import CrossArch.Proofs.Hit.Placement
import CrossArch.Proofs.Hit.Search
import CrossArch.Proofs.Hit.SourcePattern
import CrossArch.Proofs.Hit.Tokens
import CrossArch.Proofs.Library
import CrossArch.Proofs.Lists
import CrossArch.Proofs.Regex.Reach
import CrossArch.Proofs.Regex.Reading
import CrossArch.Proofs.Regex.Search
import CrossArch.Proofs.Regex.Sequence
import CrossArch.Proofs.Report.Csv
import CrossArch.Proofs.Rule.Load
import CrossArch.Proofs.Rule.Merge
import CrossArch.Proofs.Scan.Backed
import CrossArch.Proofs.Scan.CommentBody
import CrossArch.Proofs.Scan.Gate
import CrossArch.Proofs.Scan.Libraries
import CrossArch.Proofs.Scan.LiveText
import CrossArch.Proofs.Scan.MakefileLines
import CrossArch.Proofs.Scan.Parts
import CrossArch.Proofs.Scan.Project
import CrossArch.Proofs.Scan.RuleParts
import CrossArch.Proofs.Scan.Shape
import CrossArch.Proofs.Text.Bytes
import CrossArch.Proofs.Text.Front
import CrossArch.Proofs.Text.Line
import CrossArch.Proofs.Text.LineEnding
import CrossArch.Proofs.Text.Words
import CrossArch.Proofs.Unicode.Word
import CrossArch.Regex.Bracket
import CrossArch.Regex.Escape
import CrossArch.Regex.Match
import CrossArch.Regex.Parser
import CrossArch.Regex.Property
import CrossArch.Regex.Search
import CrossArch.Regex.Syntax
import CrossArch.Regex.Weight
import CrossArch.Report.Csv
import CrossArch.Report.Json
import CrossArch.Report.Render
import CrossArch.Rule.Dictionary
import CrossArch.Rule.File
import CrossArch.Rule.Load
import CrossArch.Rule.Table
import CrossArch.Scan.Makefile
import CrossArch.Scan.Project
import CrossArch.Scan.Source
import CrossArch.Text.Bytes
import CrossArch.Text.Front
import CrossArch.Text.Line
import CrossArch.Toml.Document
import CrossArch.Toml.Scalar
import CrossArch.Unicode.Alphabetic
import CrossArch.Unicode.Blank
import CrossArch.Unicode.CaseFold
import CrossArch.Unicode.Category
import CrossArch.Unicode.CodeRanges
import CrossArch.Unicode.Mark
import CrossArch.Unicode.Number
import CrossArch.Unicode.Script
import CrossArch.Unicode.Word
import CrossArch.Yaml.Node
import CrossArch.Yaml.Place
import CrossArch.Yaml.Scalar
import CrossArch.Yaml.Token
