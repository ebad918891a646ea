import PageEdit.Context.Assemble
import PageEdit.Context.Candidates
import PageEdit.Context.Hit
import PageEdit.Context.Lookup
import PageEdit.Context.Record
import PageEdit.Context.Search
import PageEdit.Css.Fault
import PageEdit.Css.Ident
import PageEdit.Css.Lexer
import PageEdit.Css.Matches
import PageEdit.Css.Reader
import PageEdit.Css.Selector
import PageEdit.Css.Token
import PageEdit.Css.Tree
import PageEdit.Digest.Sha256
import PageEdit.Html.Build.Arena
import PageEdit.Html.Build.Body
import PageEdit.Html.Build.Formatting
import PageEdit.Html.Build.Head
import PageEdit.Html.Build.Reader
import PageEdit.Html.Build.State
import PageEdit.Html.Build.Table
import PageEdit.Html.Content
import PageEdit.Html.DoctypeMode
import PageEdit.Html.Document
import PageEdit.Html.ElementSets
import PageEdit.Html.Escape
import PageEdit.Html.Foreign
import PageEdit.Html.Markup
import PageEdit.Html.Name
import PageEdit.Html.NamedReferences
import PageEdit.Html.Place
import PageEdit.Html.Reference
import PageEdit.Html.Revision
import PageEdit.Html.Scanner
import PageEdit.Html.Token
import PageEdit.Json.Decode
import PageEdit.Json.Fault
import PageEdit.Json.Printer
import PageEdit.Json.Reader
import PageEdit.Json.Skip
import PageEdit.Json.Value
import PageEdit.Main
import PageEdit.Number.Layout
import PageEdit.Number.Shortest
import PageEdit.Number.Total
import PageEdit.Number.TotalOrder
import PageEdit.Order.Distinct
import PageEdit.Order.Stable
import PageEdit.Outline.Basic
import PageEdit.Outline.Names
import PageEdit.Outline.OfHtml
import PageEdit.Outline.Record
import PageEdit.Patch.Apply
import PageEdit.Patch.Basic
import PageEdit.Patch.Batch
import PageEdit.Patch.Check
import PageEdit.Patch.Edit
import PageEdit.Patch.Inverse
import PageEdit.Patch.Payload
import PageEdit.Patch.Response
import PageEdit.Patch.Stages
import PageEdit.Patch.Summary
import PageEdit.Pool
import PageEdit.Proofs.Context.Admission
import PageEdit.Proofs.Context.Assembling
import PageEdit.Proofs.Context.Candidates
import PageEdit.Proofs.Context.Nesting
import PageEdit.Proofs.Context.Ranking
import PageEdit.Proofs.Context.Snapshots
import PageEdit.Proofs.Css.Compounds
import PageEdit.Proofs.Css.Declarations
import PageEdit.Proofs.Css.Identifiers
import PageEdit.Proofs.Css.Lengths
import PageEdit.Proofs.Css.Names
import PageEdit.Proofs.Css.Semicolons
import PageEdit.Proofs.Css.Tokens
import PageEdit.Proofs.Css.Values
import PageEdit.Proofs.Html.Arenas
import PageEdit.Proofs.Html.Around
import PageEdit.Proofs.Html.Bounds
import PageEdit.Proofs.Html.Clearing
import PageEdit.Proofs.Html.Entering
import PageEdit.Proofs.Html.Feeding
import PageEdit.Proofs.Html.Growing
import PageEdit.Proofs.Html.Leaving
import PageEdit.Proofs.Html.Locality
import PageEdit.Proofs.Html.Numbering
import PageEdit.Proofs.Html.Opening
import PageEdit.Proofs.Html.Ordering
import PageEdit.Proofs.Html.Pages
import PageEdit.Proofs.Html.Plain
import PageEdit.Proofs.Html.Putting
import PageEdit.Proofs.Html.Reading
import PageEdit.Proofs.Html.Rereading
import PageEdit.Proofs.Html.Roundtrip
import PageEdit.Proofs.Html.Rules
import PageEdit.Proofs.Html.Scanning
import PageEdit.Proofs.Html.Shape
import PageEdit.Proofs.Html.Spelling
import PageEdit.Proofs.Html.Steady
import PageEdit.Proofs.Html.Texts
import PageEdit.Proofs.Html.Tokens
import PageEdit.Proofs.Html.Verbatim
import PageEdit.Proofs.Html.Writing
import PageEdit.Proofs.Json.Texts
import PageEdit.Proofs.Number.Comparing
import PageEdit.Proofs.Outline.Building
import PageEdit.Proofs.Outline.Hidden
import PageEdit.Proofs.Outline.Identifiers
import PageEdit.Proofs.Outline.Sections
import PageEdit.Proofs.Outline.Selectors
import PageEdit.Proofs.Outline.TextRuns
import PageEdit.Proofs.Outline.Tree
import PageEdit.Proofs.Patch.Answers
import PageEdit.Proofs.Patch.Attributes
import PageEdit.Proofs.Patch.Batches
import PageEdit.Proofs.Patch.Classes
import PageEdit.Proofs.Patch.Effect
import PageEdit.Proofs.Patch.Fences
import PageEdit.Proofs.Patch.KeptStyles
import PageEdit.Proofs.Patch.LetterCase
import PageEdit.Proofs.Patch.PlainRollback
import PageEdit.Proofs.Patch.Restoring
import PageEdit.Proofs.Patch.Rollback
import PageEdit.Proofs.Patch.Runs
import PageEdit.Proofs.Patch.Sessions
import PageEdit.Proofs.Patch.Splitting
import PageEdit.Proofs.Patch.Stages
import PageEdit.Proofs.Patch.StyleRuns
import PageEdit.Proofs.Patch.Styles
import PageEdit.Proofs.Patch.Undoing
import PageEdit.Proofs.Pool.Accounts
import PageEdit.Proofs.Pool.Turns
import PageEdit.Proofs.Relevance.Agreement
import PageEdit.Proofs.Relevance.ClosingMarks
import PageEdit.Proofs.Relevance.DocumentOrder
import PageEdit.Proofs.Relevance.HitSelectors
import PageEdit.Proofs.Relevance.MoreWords
import PageEdit.Proofs.Relevance.Rankings
import PageEdit.Proofs.Settings.Showing
import PageEdit.Proofs.Text.Appending
import PageEdit.Proofs.Text.Words
import PageEdit.Proofs.Toml.Integers
import PageEdit.Proofs.Toml.Lines
import PageEdit.Relevance.Excerpt
import PageEdit.Relevance.Keywords
import PageEdit.Relevance.Ranking
import PageEdit.Relevance.WholePage
import PageEdit.Session
import PageEdit.Settings.Basic
import PageEdit.Settings.Text
import PageEdit.Shell.Arguments
import PageEdit.Shell.Command
import PageEdit.Shell.Disk
import PageEdit.Shell.Host
import PageEdit.Shell.Path
import PageEdit.Shell.Run
import PageEdit.Text.Blank
import PageEdit.Text.Case
import PageEdit.Text.CaseRanges
import PageEdit.Text.HiddenRanges
import PageEdit.Text.Quoted
import PageEdit.Text.Ranges
import PageEdit.Text.Utf8
import PageEdit.Text.Word
import PageEdit.Text.WordRanges
import PageEdit.Toml.Reader
import PageEdit.Toml.Scalar
import PageEdit.Toml.Table
import PageEdit.Toml.Value
