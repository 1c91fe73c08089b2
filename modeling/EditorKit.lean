import EditorKit.Text.Basic
import EditorKit.Text.Lower
import EditorKit.Text.Letter
import EditorKit.Text.Numeral
import EditorKit.Text.Quoted
import EditorKit.Number.Decimal
import EditorKit.Search.Folded
import EditorKit.Search.Outcome
import EditorKit.Search.Alignment
import EditorKit.Error
import EditorKit.Search.Rank
import EditorKit.Search.RankedList
import EditorKit.Theme.Color
import EditorKit.Theme.StyleKey
import EditorKit.Theme.Basic
import EditorKit.Theme.Resource
import EditorKit.Log.Notice
import EditorKit.Log.Pattern
import EditorKit.Log.Pattern.Machine
import EditorKit.Log.Pattern.Flags
import EditorKit.Log.Pattern.SetReader
import EditorKit.Log.Pattern.Reader
import EditorKit.Log.Directive
import EditorKit.Log.Threshold
import EditorKit.Theme.Store
import EditorKit.Outline.Item
import EditorKit.Json.Value
import EditorKit.Files.Path
import EditorKit.Files.Folder
import EditorKit.Log.Rotating
import EditorKit.Toml.String
import EditorKit.Toml.Value
import EditorKit.Toml.Document
import EditorKit.Settings.Basic
import EditorKit.Settings.Sources
import EditorKit.Theme.Json
import EditorKit.Command.Run
import EditorKit.Command.Report
import EditorKit.Main
import EditorKit.Proofs.Text.Lower
import EditorKit.Proofs.Text.Words
import EditorKit.Proofs.Text.Trim
import EditorKit.Proofs.Text.Lines
import EditorKit.Proofs.Text.Numeral
import EditorKit.Proofs.Search.Span
import EditorKit.Proofs.Search.Folded
import EditorKit.Proofs.Search.Occurrence
import EditorKit.Proofs.Search.Alignment
import EditorKit.Proofs.Search.Score
import EditorKit.Proofs.Search.Table
import EditorKit.Proofs.Search.Path
import EditorKit.Proofs.Search.Agreement
import EditorKit.Proofs.Search.Outcome
import EditorKit.Proofs.Search.Storage
import EditorKit.Proofs.Search.Rank
import EditorKit.Proofs.Search.Order
import EditorKit.Proofs.Search.Tokens
import EditorKit.Proofs.Search.RankedList
import EditorKit.Proofs.Theme.Field
import EditorKit.Proofs.Theme.Resource
import EditorKit.Proofs.Theme.Store
import EditorKit.Proofs.Json.Value
import EditorKit.Proofs.Command.Report
import EditorKit.Proofs.Command.Options
import EditorKit.Proofs.Command.Run
import EditorKit.Proofs.Search.Refine
import EditorKit.Proofs.Files.Folder
import EditorKit.Proofs.Log.Rotating
import EditorKit.Proofs.Search.Window
import EditorKit.Proofs.Log.Writing
import EditorKit.Proofs.Search.Showing
import EditorKit.Proofs.Text.LineEnds
import EditorKit.Proofs.Theme.Fate
import EditorKit.Proofs.Theme.Section
import EditorKit.Proofs.Search.Dispersion
import EditorKit.Proofs.Search.Kept
import EditorKit.Proofs.Search.Marks
import EditorKit.Proofs.Search.Condition
import EditorKit.Proofs.Command.Brackets
import EditorKit.Proofs.Theme.Selection
import EditorKit.Proofs.Theme.Inheritance
import EditorKit.Proofs.Text.Bytes
import EditorKit.Proofs.Theme.Spelling
import EditorKit.Proofs.Theme.KeySpelling
import EditorKit.Proofs.Outline.Dump
import EditorKit.Proofs.Outline.Tree
import EditorKit.Proofs.Log.Pruning
import EditorKit.Proofs.Settings.Merging
import EditorKit.Proofs.Settings.Opening
import EditorKit.Proofs.Search.Merging
