import Folio.Markdown.Tag

/-!
# Spans of text

What the texts of blocks are made of, while it is being found out.
-/

namespace Folio.Markdown

/-- A run of equal marks that may start or end emphasis. -/
structure MarkRun where
  mark : Char
  cells : List Cell
  canOpen : Bool
  canClose : Bool
  deriving Repr, Inhabited

/-- What a link or an image points to. -/
inductive LinkTarget where
  | resource (url : String) (title : Option String)
  /-- The label of a definition; without one of its own, the text is the label. -/
  | reference (identifier : String) (label : Option String) (form : ReferenceForm)
  deriving Repr, Inhabited

/-- The kinds of spans that hold other spans. -/
inductive Enclosure where
  | emphasis
  | strong
  | delete
  | link (target : LinkTarget)
  | image (target : LinkTarget)
  /-- A reference to a footnote; what it holds is its label. -/
  | footnote (identifier : String)
  deriving Repr, Inhabited

/-- A part of a text. -/
inductive Inline where
  | data (cells : List Cell)
  /-- Characters that are written in another way. -/
  | written (value : List Char) (span : Span)
  | ending (cell : Cell)
  | hardBreak (span : Span)
  | code (value : List Char) (span : Span)
  /-- A bare link: its address and its text. -/
  | autolink (url : String) (text : List Cell) (span : Span)
  | tag (tag : Tag)
  | marks (run : MarkRun)
  | enclosed (kind : Enclosure) (span : Span) (parts : List Inline)
  deriving Repr, Inhabited

/-- The stretch of a run of cells. -/
def cellSpan (cells : List Cell) : Span :=
  ⟨startOf Point.first cells, stopOf Point.first cells⟩

/-- Adds a part to a list of parts that is kept in reverse.  Data goes on with the data before
it. -/
def addInline (part : Inline) (parts : List Inline) : List Inline :=
  match part, parts with
  | .data more, .data cells :: rest => .data (cells ++ more) :: rest
  | part, parts => part :: parts

/-- The parts of a list with adjacent data joined, and with marks that have no partner as data. -/
def plainMarks (parts : List Inline) : List Inline :=
  (parts.foldl (fun done part =>
    match part with
    | .marks run => addInline (.data run.cells) done
    | part => addInline part done) []).reverse

end Folio.Markdown
