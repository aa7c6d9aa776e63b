import SourceMark.Annotator
import SourceMark.Bytes.Base64
import SourceMark.Bytes.Utf8
import SourceMark.Command.Options
import SourceMark.Command.Request
import SourceMark.Command.Run
import SourceMark.Console.Emoji
import SourceMark.Console.EmojiNames
import SourceMark.Console.Markup
import SourceMark.Console.Screen
import SourceMark.Console.Table
import SourceMark.Dialect.Basic
import SourceMark.Dialect.Language
import SourceMark.Event
import SourceMark.Excerpt
import SourceMark.Files.Basic
import SourceMark.Files.Links
import SourceMark.Files.Snapshot
import SourceMark.Files.Tree
import SourceMark.Json.Reader
import SourceMark.Json.Value
import SourceMark.Line
import SourceMark.Loader
import SourceMark.Lookup
import SourceMark.Main
import SourceMark.Marker
import SourceMark.Path
import SourceMark.Proofs.Attributes
import SourceMark.Proofs.Checked.Basic
import SourceMark.Proofs.Checked.Lines
import SourceMark.Proofs.Checked.Run
import SourceMark.Proofs.Checked.Scan
import SourceMark.Proofs.Checked.Walk
import SourceMark.Proofs.CodeRegions
import SourceMark.Proofs.Command.Locate
import SourceMark.Proofs.Command.Messages
import SourceMark.Proofs.Console.Escaped
import SourceMark.Proofs.Console.Said
import SourceMark.Proofs.Directives
import SourceMark.Proofs.Drift
import SourceMark.Proofs.Excerpts
import SourceMark.Proofs.Html.Marker
import SourceMark.Proofs.Html.StartTag
import SourceMark.Proofs.Idempotence
import SourceMark.Proofs.Insertion
import SourceMark.Proofs.Json.Steady
import SourceMark.Proofs.Lines.Anchors
import SourceMark.Proofs.Lines.Exact
import SourceMark.Proofs.Lines.Kept
import SourceMark.Proofs.Lines.Occurrences
import SourceMark.Proofs.Lines.Ordered
import SourceMark.Proofs.Lines.Refilled
import SourceMark.Proofs.Lines.Resolve
import SourceMark.Proofs.Lines.Stretches
import SourceMark.Proofs.Loading
import SourceMark.Proofs.Marker.Blanked
import SourceMark.Proofs.Marker.Copies
import SourceMark.Proofs.Marker.Inserts
import SourceMark.Proofs.Marker.Script
import SourceMark.Proofs.Marker.Seam
import SourceMark.Proofs.Marker.Shape
import SourceMark.Proofs.Marker.Unwoven
import SourceMark.Proofs.Marker.Weave
import SourceMark.Proofs.Marker.WellFormed
import SourceMark.Proofs.Marker.Woven
import SourceMark.Proofs.OneScan
import SourceMark.Proofs.Passes
import SourceMark.Proofs.Paths.Links
import SourceMark.Proofs.Paths.Lookup
import SourceMark.Proofs.Paths.Return
import SourceMark.Proofs.Paths.RoundTrip
import SourceMark.Proofs.Paths.Standard
import SourceMark.Proofs.Places
import SourceMark.Proofs.Preview
import SourceMark.Proofs.QuotedContent
import SourceMark.Proofs.RawIds
import SourceMark.Proofs.Scan.Followed
import SourceMark.Proofs.Scan.Languages
import SourceMark.Proofs.Scan.Opaque
import SourceMark.Proofs.Scan.Placed
import SourceMark.Proofs.Scan.Readings
import SourceMark.Proofs.Scan.Rescan
import SourceMark.Proofs.Scan.WholeNames
import SourceMark.Proofs.Settings.AttributeNames
import SourceMark.Proofs.Settings.Overrides
import SourceMark.Proofs.Splice
import SourceMark.Proofs.StaticTags.Basic
import SourceMark.Proofs.StaticTags.Hazards
import SourceMark.Proofs.StaticTags.Run
import SourceMark.Proofs.StaticTags.Scan
import SourceMark.Proofs.TagCode
import SourceMark.Proofs.TagCode.Scan
import SourceMark.Proofs.TagGrammar
import SourceMark.Proofs.TagNames
import SourceMark.Proofs.TemplateBlocks
import SourceMark.Proofs.TemplateIds
import SourceMark.Proofs.Text.Blanks
import SourceMark.Proofs.Text.Pieces
import SourceMark.Proofs.Text.Runs
import SourceMark.Proofs.Text.Sign
import SourceMark.Proofs.Token
import SourceMark.Proofs.Truncation
import SourceMark.Proofs.Walk.Blind
import SourceMark.Proofs.Walk.Closers
import SourceMark.Proofs.Walk.EndTag
import SourceMark.Proofs.Walk.Escapes
import SourceMark.Proofs.Walk.Grammar
import SourceMark.Proofs.Walk.Place
import SourceMark.Proofs.Walk.Steps
import SourceMark.Reference
import SourceMark.Session
import SourceMark.Settings.Basic
import SourceMark.Settings.Environment
import SourceMark.Settings.Fields
import SourceMark.Settings.Report
import SourceMark.Tag.Hazard
import SourceMark.Tag.Nesting
import SourceMark.Tag.Quote
import SourceMark.Tag.Scanner
import SourceMark.TemplateId
import SourceMark.Text.Basic
import SourceMark.Text.Blank
import SourceMark.Text.Caseless
import SourceMark.Text.Columns
import SourceMark.Text.Digits
import SourceMark.Text.Lower
import SourceMark.Text.Printable
import SourceMark.Text.Quoted
import SourceMark.Text.Raw
import SourceMark.Text.Word
import SourceMark.Text.Wrap
import SourceMark.Token
import SourceMark.Validation
