import Folio.Markdown.Markup
import Folio.Text.Blank

/-!
# Layout

A body is laid out in lines of cells before it is read as markup.  Most cells are one character
wide; a tab fills the columns up to the next stop, so that a container can take a part of it.
Columns count the bytes of what stands in a line.
-/

namespace Folio.Markdown

open Folio.Text

/-- One cell of a line. -/
structure Cell where
  /-- The character that markup sees: a tab is a tab in its first column and spaces after that. -/
  char : Char
  /-- What the cell holds of the body: nothing in the later columns of a tab. -/
  source : List Char
  start : Point
  stop : Point
  /-- The column within its tab, from zero. -/
  shift : Nat := 0
  /-- The characters of the body around the cell. -/
  before : Option Char
  after : Option Char
  deriving DecidableEq, Repr, Inhabited

/-- A line: its cells, where they end, and the cell of the line ending if there is one. -/
structure Line where
  cells : List Cell
  stop : Point
  ending : Option Cell
  deriving DecidableEq, Repr, Inhabited

/-- The distance of tab stops. -/
def tabWidth : Nat := 4

/-- The columns a tab fills when it starts at a column. -/
def tabSpan (column : Nat) : Nat :=
  if column % tabWidth = 0 then 1 else 1 + tabWidth - column % tabWidth

/-- The point after some bytes of a line. -/
def Point.advance (p : Point) (bytes : Nat) : Point :=
  { p with column := p.column + bytes, offset := p.offset + bytes }

/-- The point after a line ending of some bytes. -/
def Point.newLine (p : Point) (bytes : Nat) : Point where
  line := p.line + 1
  column := 1
  offset := p.offset + bytes

/-- The point `n` columns into a tab. -/
def Point.intoTab (p : Point) (n : Nat) : Point :=
  { p with column := p.column + n }

/-- The cells of a tab. -/
def tabCells (p : Point) (before after : Option Char) : List Cell :=
  let width := tabSpan p.column
  let place (n : Nat) : Point :=
    if n < width then p.intoTab n else { p.intoTab n with offset := p.offset + 1 }
  (List.range width).map fun n =>
    { char := if n = 0 then '\t' else ' '
      source := if n = 0 then ['\t'] else []
      start := place n
      stop := place (n + 1)
      shift := n
      before
      after }

/-- The cell of a line ending. -/
def endingCell (p : Point) (source : List Char) (before after : Option Char) : Cell where
  char := '\n'
  source
  start := p
  stop := p.newLine source.length
  before
  after

/-- The lines of the rest of a body.  `cells` are those of the current line so far, in reverse. -/
def linesFrom (p : Point) (before : Option Char) (cells : List Cell) : List Char → List Line
  | [] => if cells.isEmpty then [] else [⟨cells.reverse, p, none⟩]
  | '\r' :: '\n' :: cs =>
    let ending := endingCell p ['\r', '\n'] before cs.head?
    ⟨cells.reverse, p, some ending⟩ :: linesFrom ending.stop (some '\n') [] cs
  | c :: cs =>
    if isReturn c then
      let ending := endingCell p [c] before cs.head?
      ⟨cells.reverse, p, some ending⟩ :: linesFrom ending.stop (some c) [] cs
    else if c = '\t' then
      let tab := tabCells p before cs.head?
      linesFrom ((p.advance 1).intoTab (tab.length - 1)) (some c) (tab.reverse ++ cells) cs
    else
      let cell : Cell :=
        { char := c, source := [c], start := p, stop := p.advance c.utf8Size, before
          after := cs.head? }
      linesFrom cell.stop (some c) (cell :: cells) cs

/-- The first point of a body. -/
def Point.first : Point := ⟨1, 1, 0⟩

/-- The lines of a body.  A byte order mark at its start is passed over. -/
def layout (body : List Char) : List Line :=
  match body with
  | '\ufeff' :: cs => linesFrom (Point.first.advance 3) (some '\ufeff') [] cs
  | cs => linesFrom Point.first none [] cs

/-! ## Runs of cells -/

/-- Whether the cell is a space or a tab. -/
def Cell.isGap (c : Cell) : Bool := isIndent c.char

/-- Whether the cell is a line ending. -/
def Cell.isEnding (c : Cell) : Bool := c.char == '\n'

/-- What cells hold of the body. -/
def sourceOf (cells : List Cell) : List Char :=
  cells.flatMap (·.source)

/-- What cells hold of the body, as a text. -/
def textOf (cells : List Cell) : String :=
  String.ofList (sourceOf cells)

/-- The rest of a line after its spaces and tabs. -/
def skipGaps (cells : List Cell) : List Cell :=
  cells.dropWhile Cell.isGap

/-- The rest of a line after at most `limit` spaces and tabs. -/
def skipGapsUpTo (limit : Nat) (cells : List Cell) : List Cell :=
  cells.drop (min limit (cells.takeWhile Cell.isGap).length)

/-- Whether there is nothing but spaces and tabs. -/
def isBlankCells (cells : List Cell) : Bool :=
  cells.all Cell.isGap

/-- The cells without spaces and tabs at the end. -/
def trimGaps (cells : List Cell) : List Cell :=
  dropEndWhile Cell.isGap cells

/-- Where a run of cells starts, or `p` if it is empty. -/
def startOf (p : Point) (cells : List Cell) : Point :=
  (cells.head?.map (·.start)).getD p

/-- Where a run of cells ends, or `p` if it is empty. -/
def stopOf (p : Point) (cells : List Cell) : Point :=
  (cells.getLast?.map (·.stop)).getD p

/-- The size of a run of cells before `rest`: its bytes, with what is left of a tab that it starts
in and what it takes of one that it ends in. -/
def runSize (run rest : List Cell) : Nat :=
  let bytes := run.foldl (fun n c => c.source.foldl (fun n d => n + d.utf8Size) n) 0
  let first := (run.head?.map (·.shift)).getD 0
  let last := (rest.head?.map (·.shift)).getD 0
  bytes + (if 0 < first then tabWidth - first else 0) + (last - 1)

end Folio.Markdown
