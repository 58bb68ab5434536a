import Folio.Markdown.Block.Basic
import Folio.Markdown.Inline.Scan
import Folio.Markdown.Inline.Space

/-!
# Assembling markup

Blocks and the parts of their texts become one kind of piece, in which tags are still single.  Then
opening and closing tags are paired, and the pieces become markup trees.
-/

namespace Folio.Markdown

open Folio.Text

/-- A piece of markup. -/
inductive Piece where
  | tag (flow : Bool) (tag : Tag)
  | leaf (content : Leaf) (span : Span)
  | branch (role : Branch) (span : Span) (parts : List Piece)
  /-- A span whose parts are a label. -/
  | labelled (kind : Enclosure) (span : Span) (parts : List Piece)
  deriving Inhabited

/-! ## Texts -/

/-- Adds a stretch of text to pieces, joined with text just before it. -/
def addText (value : List Char) (span : Span) (pieces : List Piece) : List Piece :=
  match pieces with
  | .leaf (.text more) rest :: pieces =>
    .leaf (.text (String.ofList value ++ more)) ⟨span.start, rest.stop⟩ :: pieces
  | pieces => .leaf (.text (String.ofList value)) span :: pieces

mutual

/-- The pieces of a part of a text, before other pieces. -/
def Inline.pieces (part : Inline) (rest : List Piece) : List Piece :=
  match part with
  | .data cells => addText (sourceOf cells) (cellSpan cells) rest
  | .written value span => addText value span rest
  | .ending c => addText c.source ⟨c.start, c.stop⟩ rest
  | .hardBreak span => .leaf .lineBreak span :: rest
  | .code value span => .leaf (.inlineCode (String.ofList value)) span :: rest
  | .autolink url text span =>
    .branch (.link url none) span [.leaf (.text (textOf text)) (cellSpan text)] :: rest
  | .tag tag => .tag false tag :: rest
  | .marks run => addText (sourceOf run.cells) (cellSpan run.cells) rest
  | .enclosed .emphasis span parts => .branch .emphasis span (piecesOf parts) :: rest
  | .enclosed .strong span parts => .branch .strong span (piecesOf parts) :: rest
  | .enclosed .delete span parts => .branch .delete span (piecesOf parts) :: rest
  | .enclosed kind span parts => .labelled kind span (piecesOf parts) :: rest

/-- The pieces of a text. -/
def piecesOf : List Inline → List Piece
  | [] => []
  | part :: parts => part.pieces (piecesOf parts)

end

/-- The pieces of the text of a block.  Its first spaces are dropped if it starts a line. -/
def textPieces (ctx : TextContext) (lineStart inTable : Bool) (cells : List Cell) :
    Except Point (List Piece) := do
  let parts := spaced lineStart true (← scan ctx inTable cells)
  return piecesOf (if ctx.gfm then mailedAll parts else parts)

/-- A text without its first character, which is white space, and where what is left starts.  The
two characters of a line ending go together. -/
def dropFirst (start : Point) : List Char → Point × List Char
  | [] => (start, [])
  | '\r' :: '\n' :: cs => (start.newLine 2, cs)
  | c :: cs => (if isReturn c then start.newLine 1 else start.advance 1, cs)

/-- The pieces of a text without the white space they start with, if they start with plain text; and
where what is left starts. -/
def dropFirstOf (start : Point) (pieces : List Piece) : Point × List Piece :=
  match pieces with
  | .leaf (.text value) span :: rest =>
    let (start, left) := dropFirst span.start value.toList
    (start, if left.isEmpty then rest
      else .leaf (.text (String.ofList left)) ⟨start, span.stop⟩ :: rest)
  | pieces => (start, pieces)

/-- The box of a task at the front of a text: whether it is checked, and what follows it.  White
space and something else have to follow. -/
def taskBox? (cells : List Cell) : Option (Bool × List Cell) := do
  let a :: b :: c :: d :: after := cells | none
  if a.char ≠ '[' ∨ c.char ≠ ']' then none
  let checked ←
    if b.char = 'x' ∨ b.char = 'X' then some true
    else if b.isGap || b.isEnding then some false
    else none
  if d.isEnding || (d.isGap && !(skipGaps after).isEmpty) then some (checked, d :: after) else none

/-! ## Blocks -/

/-- The paragraph of a text. -/
def paragraphPiece (ctx : TextContext) (span : Span) (text : List Cell) : Except Point Piece := do
  return .branch .paragraph span (← textPieces ctx true false text)

/-- The paragraph of a text that starts with a box, and the box, if it does. -/
def taskPiece (ctx : TextContext) (span : Span) (text : List Cell) :
    Except Point (Option Bool × Piece) := do
  match if ctx.gfm then taskBox? text else none with
  | some (checked, rest) =>
    let (start, pieces) := dropFirstOf span.start (← textPieces ctx false false rest)
    return (some checked, .branch .paragraph ⟨start, span.stop⟩ pieces)
  | none => return (none, ← paragraphPiece ctx span text)

/-- The table of rows. -/
def tablePiece (ctx : TextContext) (columns : List (Option CellAlign)) (span : Span)
    (rows : List Row) : Except Point Piece := do
  let rows ← rows.mapM fun row => do
    let cells ← row.cells.mapM fun cell => do
      return Piece.branch .cell cell.span (← textPieces ctx true true cell.text)
    return Piece.branch .row row.span cells
  return .branch (.table columns) span rows

/-- A definition. -/
def definitionPiece (ctx : TextContext) (d : Definition) (span : Span) : Piece :=
  .leaf (.definition (identifierOf (ctx.raw d.label)) (some (writtenText d.label))
    (writtenText d.url) (d.title.map writtenText)) span

mutual

/-- The piece of a block. -/
def Block.piece (ctx : TextContext) (block : Block) : Except Point Piece :=
  match block with
  | .paragraph span text => paragraphPiece ctx span text
  | .heading depth span text => do
    return .branch (.heading depth) span (← textPieces ctx true false text)
  | .rule span => .ok (.leaf .rule span)
  | .code span language note value =>
    let written (cells : List Cell) : Option String :=
      if cells.isEmpty then none else some (writtenText cells)
    .ok (.leaf (.code (String.ofList value) (written language) (written note)) span)
  | .definition d span => .ok (definitionPiece ctx d span)
  | .table columns span rows => tablePiece ctx columns span rows
  | .tag tag => .ok (.tag true tag)
  | .quote span parts => do return .branch .quote span (← blockPieces ctx parts)
  | .list ordered first spread span items => do
    return .branch (.list ordered first spread) span (← blockPieces ctx items)
  | .item spread span (.paragraph inner text :: others) => do
    let (checked, first) ← taskPiece ctx inner text
    return .branch (.item checked spread) span (first :: (← blockPieces ctx others))
  | .item spread span parts => do return .branch (.item none spread) span (← blockPieces ctx parts)
  | .footnote label span parts => do
    let role := Branch.footnoteDefinition (identifierOf (sourceOf label)) (some (writtenText label))
    return .branch role span (← blockPieces ctx parts)

/-- The pieces of blocks. -/
def blockPieces (ctx : TextContext) (blocks : List Block) : Except Point (List Piece) :=
  match blocks with
  | [] => .ok []
  | block :: blocks => do
    let piece ← block.piece ctx
    return piece :: (← blockPieces ctx blocks)

end

/-! ## What is defined -/

mutual

/-- The labels of the definitions and of the footnotes in a block. -/
def Block.labels (source : List Cell → List Char) : Block → List String × List String
  | .definition d _ => ([identifierOf (source d.label)], [])
  | .quote _ parts => labelsIn source parts
  | .list _ _ _ _ items => labelsIn source items
  | .item _ _ parts => labelsIn source parts
  | .footnote label _ parts =>
    let (definitions, footnotes) := labelsIn source parts
    (definitions, identifierOf (source label) :: footnotes)
  | _ => ([], [])

/-- The labels of the definitions and of the footnotes in blocks. -/
def labelsIn (source : List Cell → List Char) : List Block → List String × List String
  | [] => ([], [])
  | block :: blocks =>
    let (definitions, footnotes) := block.labels source
    let (moreDefinitions, moreFootnotes) := labelsIn source blocks
    (definitions ++ moreDefinitions, footnotes ++ moreFootnotes)

end

/-! ## Pairing tags -/

/-- A tag that is open, with the parts read since, in reverse. -/
structure OpenElement where
  flow : Bool
  tag : Tag
  parts : List Markup

/-- What has been assembled. -/
structure Assembled where
  /-- The tags that are open in the current parent, the innermost one first. -/
  elements : List OpenElement := []
  /-- The parts of the parent before them, in reverse. -/
  parts : List Markup := []
  /-- The names of all tags that are open, the innermost one first. -/
  names : List (Option String) := []

namespace Assembled

/-- Adds a part. -/
def add (a : Assembled) (part : Markup) : Assembled :=
  match a.elements with
  | [] => { a with parts := part :: a.parts }
  | top :: rest => { a with elements := { top with parts := part :: top.parts } :: rest }

/-- The element of a tag that ends at a point. -/
def element (flow : Bool) (tag : Tag) (stop : Point) (parts : List Markup) : Markup :=
  .branch (.tagged flow tag.name tag.attributes) (some ⟨tag.span.start, stop⟩) parts

/-- Takes a closing tag, which has to be that of the innermost open tag, and of the same parent. -/
def closeTag (a : Assembled) (tag : Tag) : Except Point Assembled :=
  match a.names with
  | [] => .error tag.slash
  | name :: names =>
    match tag.misplaced with
    | some place => .error place
    | none =>
      match a.elements with
      | [] => .error tag.span.start
      | top :: rest =>
        if name = tag.name then
          .ok ({ a with elements := rest, names }.add
            (element top.flow top.tag tag.span.stop top.parts.reverse))
        else .error tag.span.start

/-- Takes a tag. -/
def takeTag (a : Assembled) (flow : Bool) (tag : Tag) : Except Point Assembled :=
  if tag.closing then a.closeTag tag
  else if tag.selfClosing then .ok (a.add (element flow tag tag.span.stop []))
  else .ok { a with elements := ⟨flow, tag, []⟩ :: a.elements, names := tag.name :: a.names }

/-- The parts of a parent that ends at a point, the tags that are still open taken as ending
there. -/
def close (stop : Point) (parts : List Markup) : List OpenElement → List Markup
  | [] => parts.reverse
  | [top] => (element top.flow top.tag stop top.parts.reverse :: parts).reverse
  | top :: next :: rest =>
    let next := { next with parts := element top.flow top.tag stop top.parts.reverse :: next.parts }
    close stop parts (next :: rest)
termination_by elements => elements.length

end Assembled

/-- The text of markup, as a label or the text of an image. -/
def markupText (parts : List Markup) : String :=
  String.join ((allOf parts).map fun
    | .leaf (.text value) _ => value
    | .leaf (.inlineCode value) _ => value
    | _ => "")

/-- The markup of a span with a label. -/
def labelledMarkup (kind : Enclosure) (span : Span) (parts : List Markup) : Markup :=
  let text := markupText parts
  match kind with
  | .link (.resource url title) => .branch (.link url title) span parts
  | .link (.reference identifier label form) =>
    .branch (.linkReference identifier (label.getD text) form) span parts
  | .image (.resource url title) => .leaf (.image url text title) span
  | .image (.reference identifier label form) =>
    .leaf (.imageReference identifier (label.getD text) text form) span
  | .footnote identifier => .leaf (.footnoteReference identifier text) span
  | .emphasis => .branch .emphasis span parts
  | .strong => .branch .strong span parts
  | .delete => .branch .delete span parts

mutual

/-- Takes a piece.  A tag has to be closed in the parent that opens it, except in a label. -/
def Piece.assemble (piece : Piece) (a : Assembled) : Except Point Assembled :=
  match piece with
  | .tag flow tag => a.takeTag flow tag
  | .leaf content span => .ok (a.add (.leaf content span))
  | .branch role span parts => do
    let inner ← assembleAll parts { names := a.names }
    if inner.elements.isEmpty then
      return { a with names := inner.names }.add (.branch role span inner.parts.reverse)
    else
      throw span.stop
  | .labelled kind span parts => do
    let inner ← assembleAll parts { names := a.names }
    let parts := Assembled.close span.stop inner.parts inner.elements
    return { a with names := inner.names }.add (labelledMarkup kind span parts)

/-- Takes pieces. -/
def assembleAll (pieces : List Piece) (a : Assembled) : Except Point Assembled :=
  match pieces with
  | [] => .ok a
  | piece :: pieces => do
    let a ← piece.assemble a
    assembleAll pieces a

end

end Folio.Markdown
