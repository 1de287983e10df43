import JujuMigration.CommandLine.Arguments
import JujuMigration.CommandLine.Session
import JujuMigration.Config.Basic
import JujuMigration.Config.Edit
import JujuMigration.Config.Reader
import JujuMigration.Console.Action
import JujuMigration.Console.Emoji
import JujuMigration.Console.EmojiTable
import JujuMigration.Console.Layout
import JujuMigration.Console.Markup
import JujuMigration.Console.Messages
import JujuMigration.Console.Output
import JujuMigration.Console.Style
import JujuMigration.Console.Table
import JujuMigration.Console.Wrapping
import JujuMigration.Diff.Matching
import JujuMigration.Diff.Unified
import JujuMigration.Main
import JujuMigration.Number.Binary64
import JujuMigration.Number.Rounding
import JujuMigration.Proofs.CommandLine.Listing
import JujuMigration.Proofs.CommandLine.Session
import JujuMigration.Proofs.Config.Bindings
import JujuMigration.Proofs.Config.Comment
import JujuMigration.Proofs.Config.Commute
import JujuMigration.Proofs.Config.Concat
import JujuMigration.Proofs.Config.Edited
import JujuMigration.Proofs.Config.Edits
import JujuMigration.Proofs.Config.Exchange
import JujuMigration.Proofs.Config.Fault
import JujuMigration.Proofs.Config.Item
import JujuMigration.Proofs.Config.Layout
import JujuMigration.Proofs.Config.LineEnds
import JujuMigration.Proofs.Config.Lines
import JujuMigration.Proofs.Config.Lossless
import JujuMigration.Proofs.Config.Names
import JujuMigration.Proofs.Config.Places
import JujuMigration.Proofs.Config.Progress
import JujuMigration.Proofs.Config.Reading
import JujuMigration.Proofs.Config.Recast
import JujuMigration.Proofs.Config.Refit
import JujuMigration.Proofs.Config.Rename
import JujuMigration.Proofs.Config.Tidy
import JujuMigration.Proofs.Config.Traversal
import JujuMigration.Proofs.Config.Variation
import JujuMigration.Proofs.Console.Markup
import JujuMigration.Proofs.Console.Messages
import JujuMigration.Proofs.Rules.Comment
import JujuMigration.Proofs.Rules.LineEnds
import JujuMigration.Proofs.Rules.Reference
import JujuMigration.Proofs.Rules.Segments
import JujuMigration.Proofs.Rules.Substitution
import JujuMigration.Proofs.Rules.VersionConstraint
import JujuMigration.Proofs.Run.Backup
import JujuMigration.Proofs.Run.Discovery
import JujuMigration.Proofs.Run.Ending
import JujuMigration.Proofs.Run.Isolated
import JujuMigration.Proofs.Run.Kept
import JujuMigration.Proofs.Run.Order
import JujuMigration.Proofs.Run.Preview
import JujuMigration.Proofs.Run.Process
import JujuMigration.Proofs.Run.Replace
import JujuMigration.Proofs.Run.Reports
import JujuMigration.Proofs.Run.Summary
import JujuMigration.Proofs.Run.Walk
import JujuMigration.Proofs.Source.Alike
import JujuMigration.Proofs.Source.Comment
import JujuMigration.Proofs.Source.Escape
import JujuMigration.Proofs.Source.Expression
import JujuMigration.Proofs.Source.Extent
import JujuMigration.Proofs.Source.Filler
import JujuMigration.Proofs.Source.Gap
import JujuMigration.Proofs.Source.LineEnds
import JujuMigration.Proofs.Source.Multiline
import JujuMigration.Proofs.Source.Offset
import JujuMigration.Proofs.Source.Position
import JujuMigration.Proofs.Source.Template
import JujuMigration.Proofs.Source.TemplateGrammar
import JujuMigration.Proofs.Store.Operations
import JujuMigration.Proofs.Store.Region
import JujuMigration.Proofs.Store.Ways
import JujuMigration.Proofs.Strict.Acceptance
import JujuMigration.Proofs.Strict.Agreement
import JujuMigration.Proofs.Strict.Closing
import JujuMigration.Proofs.Strict.Index
import JujuMigration.Proofs.Strict.Labels
import JujuMigration.Proofs.Strict.Mirror
import JujuMigration.Proofs.Strict.Operands
import JujuMigration.Proofs.Strict.Progress
import JujuMigration.Proofs.Strict.Replay
import JujuMigration.Proofs.Strict.Trivia
import JujuMigration.Proofs.Strict.Whole
import JujuMigration.Proofs.Strict.Words
import JujuMigration.Proofs.Text.Difference
import JujuMigration.Proofs.Text.LineEnds
import JujuMigration.Proofs.Text.Utf8
import JujuMigration.Proofs.Upgrade.Comment
import JujuMigration.Proofs.Upgrade.Concat
import JujuMigration.Proofs.Upgrade.Frame
import JujuMigration.Proofs.Upgrade.LineEnds
import JujuMigration.Proofs.Upgrade.Merge
import JujuMigration.Proofs.Upgrade.Migration
import JujuMigration.Proofs.Upgrade.NormalForm
import JujuMigration.Proofs.Upgrade.Places
import JujuMigration.Proofs.Upgrade.Plain
import JujuMigration.Proofs.Upgrade.Recast
import JujuMigration.Proofs.Upgrade.Rule
import JujuMigration.Proofs.Upgrade.Settled
import JujuMigration.Proofs.Upgrade.Stable
import JujuMigration.Proofs.Upgrade.Truth
import JujuMigration.Proofs.Upgrade.Variation
import JujuMigration.Rules.Reference
import JujuMigration.Rules.Tables
import JujuMigration.Rules.VersionConstraint
import JujuMigration.Run.Discovery
import JujuMigration.Run.Process
import JujuMigration.Run.Report
import JujuMigration.Run.ReportFile
import JujuMigration.Source.Comment
import JujuMigration.Source.Expression
import JujuMigration.Source.Fault
import JujuMigration.Source.Gap
import JujuMigration.Source.Heredoc
import JujuMigration.Source.Label
import JujuMigration.Source.Offset
import JujuMigration.Source.Position
import JujuMigration.Source.Template
import JujuMigration.Store.Basic
import JujuMigration.Store.Lookup
import JujuMigration.Store.Operations
import JujuMigration.Store.Path
import JujuMigration.Strict.BlockIndex
import JujuMigration.Strict.Evaluation
import JujuMigration.Strict.Grammar
import JujuMigration.Strict.Lexeme
import JujuMigration.Strict.Parser
import JujuMigration.Strict.Value
import JujuMigration.Text.Basic
import JujuMigration.Text.CellWidth
import JujuMigration.Text.Lines
import JujuMigration.Text.Number
import JujuMigration.Text.Printable
import JujuMigration.Text.Quoted
import JujuMigration.Text.Utf8
import JujuMigration.Text.WordClass
import JujuMigration.Text.Words
import JujuMigration.Upgrade.Block
import JujuMigration.Upgrade.Document
import JujuMigration.Upgrade.Notes
import JujuMigration.Yaml.Basic
import JujuMigration.Yaml.Printer
import JujuMigration.Yaml.Scalar
