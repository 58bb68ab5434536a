import Folio.Code.Theme
import Folio.Heading.Anchor
import Folio.Outline

/-!
# Options

What a site may choose about how its documents are compiled.  Every choice has a default.
-/

namespace Folio

/-- Which markup beyond the common core a body may use. -/
structure ParseOptions where
  /-- Tables, task lists, footnotes, strikethrough and bare links. -/
  gfm : Bool := true
  /-- Component tags. -/
  jsx : Bool := true
  deriving DecidableEq, Repr, Inhabited

/-- How a document is compiled. -/
structure CompileOptions where
  /-- Whether code is shown in coloured rows. -/
  highlight : Bool := true
  /-- The theme for the colours. -/
  theme : String := Theme.defaultName
  /-- Where the link of a heading to itself goes. -/
  autolink : SelfLink := .wrap
  /-- Where the table of contents comes from. -/
  tocSource : OutlineSource := .text
  parse : ParseOptions := {}
  deriving DecidableEq, Repr, Inhabited

end Folio
