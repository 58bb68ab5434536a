import Folio.Markdown.Block.Container
import Folio.Markdown.Block.Table
import Folio.Markdown.Definition
import Folio.Markdown.Tag

/-!
# Blocks

The blocks of a body before the texts in them are read.  While lines come in, an open container
collects items: finished blocks, and lines of text of which it is not yet clear what they are.  When
the container closes, its items settle into blocks.
-/

namespace Folio.Markdown

open Folio.Text

/-- A row of a table. -/
structure Row where
  span : Span
  cells : List RowCell
  deriving Repr

/-- A block whose texts are still cells. -/
inductive Block where
  | paragraph (span : Span) (text : List Cell)
  | heading (depth : Nat) (span : Span) (text : List Cell)
  | rule (span : Span)
  | code (span : Span) (language note : List Cell) (value : List Char)
  | definition (definition : Definition) (span : Span)
  | table (columns : List (Option CellAlign)) (span : Span) (rows : List Row)
  | tag (tag : Tag)
  | quote (span : Span) (parts : List Block)
  | list (ordered : Bool) (first : Option Nat) (spread : Bool) (span : Span) (items : List Block)
  | item (spread : Bool) (span : Span) (parts : List Block)
  | footnote (label : List Cell) (span : Span) (parts : List Block)
  deriving Repr, Inhabited

/-- A line of text within its containers. -/
structure TextLine where
  cells : List Cell
  stop : Point
  ending : Option Cell
  /-- Whether a part of the line was taken as the prefix of containers. -/
  prefixed : Bool
  deriving Repr, Inhabited

/-- Where a line of text starts. -/
def TextLine.start (line : TextLine) : Point :=
  startOf line.stop line.cells

/-- The stretch of a line of text. -/
def TextLine.span (line : TextLine) : Span :=
  ⟨line.start, line.stop⟩

/-- What an open container has collected. -/
inductive Item where
  | blank
  /-- Lines that are a paragraph unless they start with definitions. -/
  | text (lines : List TextLine)
  /-- A line that makes a paragraph before it a heading. -/
  | underline (depth : Nat) (line : TextLine)
  | table (columns : List (Option CellAlign)) (rows : List Row)
  /-- A list item; `bare` says whether its last line has nothing but the prefixes of containers. -/
  | listItem (mark : ItemMark) (spread bare : Bool) (span : Span) (parts : List Block)
  | block (block : Block)
  deriving Repr, Inhabited

/-- Adds an item to those of a container, which are kept in reverse.  A line of text goes on with
the text before it. -/
def addItem (item : Item) (items : List Item) : List Item :=
  match item, items with
  | .text more, .text lines :: rest => .text (lines ++ more) :: rest
  | .table [] more, .table columns rows :: rest => .table columns (rows ++ more) :: rest
  | item, items => item :: items

/-! ## Settling text -/

/-- The cells of lines with the endings between them. -/
def joinLines : List TextLine → List Cell
  | [] => []
  | [line] => line.cells
  | line :: lines => line.cells ++ line.ending.toList ++ joinLines lines

/-- A paragraph that a line under it may still make a heading. -/
structure Paragraph where
  span : Span
  text : List Cell

/-- The paragraph as a block. -/
def Paragraph.block (p : Paragraph) : Item :=
  .block (.paragraph p.span p.text)

/-- The paragraph of lines, if there are any. -/
def paragraphOf? (stop : Point) (text : List Cell) : Option Paragraph :=
  match text with
  | [] => none
  | c :: _ => some ⟨⟨c.start, stop⟩, text⟩

/-- The definitions that a text starts with, and the paragraph after them.  Each definition takes at
least one of the cells, so as many steps as there are cells are enough. -/
def splitDefinitions (stop : Point) : (steps : Nat) → List Cell → List Item × Option Paragraph
  | 0, cells => ([], paragraphOf? stop cells)
  | steps + 1, cells =>
    match definition? stop cells with
    | none => ([], paragraphOf? stop cells)
    | some (d, rest) =>
      let item := Item.block (.definition d ⟨startOf stop cells, d.stop⟩)
      let (items, paragraph) := splitDefinitions stop steps (rest.drop 1)
      (item :: items, paragraph)

/-- The definitions that lines start with, and the paragraph after them. -/
def settleLines (lines : List TextLine) : List Item × Option Paragraph :=
  let cells := joinLines lines
  let stop := (lines.getLast?.map (·.stop)).getD Point.first
  splitDefinitions stop cells.length cells

/-- The paragraph that a line and lines after it make, unless they start with a definition or
containers. -/
def joinedParagraph? (line : TextLine) (lines : List TextLine) : Option Paragraph :=
  match lines with
  | next :: _ =>
    if next.prefixed then none
    else match settleLines lines with
      | ([], some p) => some ⟨⟨line.start, p.span.stop⟩, joinLines (line :: lines)⟩
      | _ => none
  | [] => none

/-- Items with their lines of text settled.  `before` is the paragraph just before them.  A line
that finds no paragraph to make a heading of is text itself. -/
def settleTexts (before : Option Paragraph) : List Item → List Item
  | [] => (before.map Paragraph.block).toList
  | .text lines :: items =>
    let (definitions, paragraph) := settleLines lines
    (before.map Paragraph.block).toList ++ definitions ++ settleTexts paragraph items
  | .underline depth line :: items =>
    match before with
    | some p =>
      .block (.heading depth ⟨p.span.start, line.stop⟩ p.text) :: settleTexts none items
    | none =>
      match items with
      | .text lines :: items' =>
        match joinedParagraph? line lines with
        | some p => settleTexts (some p) items'
        | none =>
          let (definitions, paragraph) := settleLines lines
          Paragraph.block ⟨line.span, line.cells⟩ :: definitions ++ settleTexts paragraph items'
      | items => settleTexts (some ⟨line.span, line.cells⟩) items
  | item :: items => (before.map Paragraph.block).toList ++ item :: settleTexts none items

/-! ## Settling lists -/

/-- Items of one list that follow each other. -/
structure ListRun where
  mark : ItemMark
  spread : Bool
  span : Span
  items : List Block
  /-- Whether the last line of the last item is bare. -/
  endsBare : Bool

/-- The list of a run. -/
def ListRun.block (run : ListRun) : Block :=
  .list run.mark.number.isSome run.mark.number run.spread run.span run.items

/-- The blocks of settled items.  `run` is the list just before them, and `blanks` counts the blank
lines since its last item.  A list is spread if blank lines are between its items; the end of a bare
line counts as one, and is left out. -/
def settleLists (run : Option ListRun) (blanks : Nat) : List Item → List Block
  | [] => (run.map ListRun.block).toList
  | .blank :: items => settleLists run (blanks + 1) items
  | .listItem mark spread bare span parts :: items =>
    let item := Block.item spread span parts
    let fresh : ListRun := ⟨mark, false, span, [item], bare⟩
    match run with
    | none => settleLists (some fresh) 0 items
    | some run =>
      if run.mark.mark = mark.mark then
        let apart := (if run.endsBare then 1 else 0) < blanks
        settleLists
          (some { run with
            spread := run.spread || apart
            span := ⟨run.span.start, span.stop⟩
            items := run.items ++ [item]
            endsBare := bare })
          0 items
      else
        run.block :: settleLists (some fresh) 0 items
  | .block b :: items => (run.map ListRun.block).toList ++ b :: settleLists none 0 items
  | .table columns rows :: items =>
    let start := (rows.head?.map (·.span.start)).getD Point.first
    let stop := (rows.getLast?.map (·.span.stop)).getD Point.first
    (run.map ListRun.block).toList ++ .table columns ⟨start, stop⟩ rows :: settleLists none 0 items
  | _ :: items => settleLists run blanks items

/-- The blocks of the items of a container, which are kept in reverse. -/
def settle (items : List Item) : List Block :=
  settleLists none 0 (settleTexts none items.reverse)

/-- Whether blank lines are among the items of a list item, other than right at its start. -/
def isSpread (items : List Item) : Bool :=
  (items.reverse.drop 1).any fun
    | .blank => true
    | _ => false

end Folio.Markdown
