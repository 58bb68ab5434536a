import Folio.Assemble
import Folio.Code.Highlight
import Folio.Code.Raw
import Folio.Code.Theme
import Folio.Code.Title
import Folio.Component.Registry
import Folio.Component.Resolve
import Folio.Config
import Folio.Date
import Folio.Dict
import Folio.Error
import Folio.Fence
import Folio.Frontmatter.Block
import Folio.Frontmatter.Schema
import Folio.Heading.Anchor
import Folio.Html
import Folio.Json.Basic
import Folio.Json.Source
import Folio.Location
import Folio.Lower.Document
import Folio.Lower.Width
import Folio.Markdown.Assembly
import Folio.Markdown.Block.Basic
import Folio.Markdown.Block.Container
import Folio.Markdown.Block.Document
import Folio.Markdown.Block.Flow
import Folio.Markdown.Block.Marks
import Folio.Markdown.Block.Table
import Folio.Markdown.CharacterReference
import Folio.Markdown.Definition
import Folio.Markdown.Identifier
import Folio.Markdown.Inline.Attention
import Folio.Markdown.Inline.Autolink
import Folio.Markdown.Inline.Basic
import Folio.Markdown.Inline.Scan
import Folio.Markdown.Inline.Space
import Folio.Markdown.Layout
import Folio.Markdown.Markup
import Folio.Markdown.Parse
import Folio.Markdown.Tag
import Folio.Number.Binary
import Folio.Number.Decimal
import Folio.Options
import Folio.Outline
import Folio.Pipeline
import Folio.Proofs.Assemble.Relocation
import Folio.Proofs.Date.Order
import Folio.Proofs.Date.Text
import Folio.Proofs.Dict
import Folio.Proofs.Fence.Closing
import Folio.Proofs.Fence.Quoted
import Folio.Proofs.Fence.Scan
import Folio.Proofs.Fence.Segmentation
import Folio.Proofs.Fence.Written
import Folio.Proofs.Frontmatter.Extraction
import Folio.Proofs.Frontmatter.Layout
import Folio.Proofs.Frontmatter.Record
import Folio.Proofs.Html.ComponentTag
import Folio.Proofs.Html.Reader
import Folio.Proofs.Html.Rendering
import Folio.Proofs.Html.RoundTrip
import Folio.Proofs.Html.StartTag
import Folio.Proofs.Html.Substitution
import Folio.Proofs.Html.Writing
import Folio.Proofs.Json.Number
import Folio.Proofs.Json.Quote
import Folio.Proofs.Json.Record
import Folio.Proofs.Json.Text
import Folio.Proofs.Lower.Blame
import Folio.Proofs.Lower.Container
import Folio.Proofs.Lower.Enclosure
import Folio.Proofs.Lower.FenceSource
import Folio.Proofs.Lower.Footnote
import Folio.Proofs.Lower.Phrasing
import Folio.Proofs.Lower.QuotedFence
import Folio.Proofs.Lower.Reference
import Folio.Proofs.Lower.Text
import Folio.Proofs.Lower.Unclosed
import Folio.Proofs.Lower.Visit
import Folio.Proofs.Outcome
import Folio.Proofs.Outline.Agreement
import Folio.Proofs.Outline.FencedBlock
import Folio.Proofs.Outline.ListItem
import Folio.Proofs.Outline.PlainDocument
import Folio.Proofs.Outline.Surroundings
import Folio.Proofs.Outline.Text
import Folio.Proofs.Outline.Tree
import Folio.Proofs.Pipeline.Acceptance
import Folio.Proofs.Pipeline.Highlighting
import Folio.Proofs.Pipeline.Order
import Folio.Proofs.Pipeline.Outline
import Folio.Proofs.Pipeline.RawText
import Folio.Proofs.Pipeline.Recapture
import Folio.Proofs.Pipeline.Rendering
import Folio.Proofs.Pipeline.Reordering
import Folio.Proofs.Pipeline.Run
import Folio.Proofs.Pipeline.Target
import Folio.Proofs.Site.Batch
import Folio.Proofs.Site.Chronology
import Folio.Proofs.Site.Collection
import Folio.Proofs.Site.Config
import Folio.Proofs.Site.Containment
import Folio.Proofs.Site.Document
import Folio.Proofs.Site.FileTree
import Folio.Proofs.Site.Loading
import Folio.Proofs.Site.OwnDocument
import Folio.Proofs.Site.Path
import Folio.Proofs.Slug
import Folio.Proofs.Stage.Anchor
import Folio.Proofs.Stage.Commute
import Folio.Proofs.Stage.Highlight
import Folio.Proofs.Stage.NumberedRow
import Folio.Proofs.Stage.Recode
import Folio.Proofs.Stage.Renewal
import Folio.Proofs.Stage.Row
import Folio.Proofs.Stage.SelfLink
import Folio.Proofs.Stage.Shape
import Folio.Proofs.Stage.Step
import Folio.Proofs.Stage.Title
import Folio.Proofs.Stage.TitleLabel
import Folio.Proofs.Stage.TitleNote
import Folio.Proofs.Stage.TitleRest
import Folio.Proofs.Text.Line
import Folio.Proofs.Text.Lowercase
import Folio.Proofs.Text.Numeral
import Folio.Proofs.Text.Word
import Folio.Proofs.Tree.Block
import Folio.Proofs.Tree.Growth
import Folio.Proofs.Tree.Induction
import Folio.Proofs.Tree.Revision
import Folio.Record
import Folio.Site.Collection
import Folio.Site.Config
import Folio.Site.Disk
import Folio.Site.Error
import Folio.Site.FileTree
import Folio.Site.Loader
import Folio.Site.Path
import Folio.Slug
import Folio.Text.Blank
import Folio.Text.Cased
import Folio.Text.CodePoints
import Folio.Text.Identifier
import Folio.Text.Line
import Folio.Text.Lowercase
import Folio.Text.NamedCharacters
import Folio.Text.Numeral
import Folio.Text.Offset
import Folio.Text.Printable
import Folio.Text.Punctuation
import Folio.Text.Quoted
import Folio.Text.Uppercase
import Folio.Tree.Basic
import Folio.Tree.Transform
import Folio.Tree.View
import Folio.Yaml.Cursor
import Folio.Yaml.Document
import Folio.Yaml.Node
import Folio.Yaml.Record
import Folio.Yaml.Scalar
import Folio.Yaml.Schema
import Folio.Yaml.Tag
import Folio.Yaml.Token
