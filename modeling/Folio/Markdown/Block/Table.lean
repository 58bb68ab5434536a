import Folio.Markdown.Layout

/-!
# Tables

The rows of a table, and the line of hyphens under its head, which says how many columns there are
and how they are aligned.
-/

namespace Folio.Markdown

/-! ## Rows -/

/-- A line cut at its unescaped bars: what stands before the first one, and each bar with what
stands after it. -/
def cutAtBars : List Cell → List Cell × List (Cell × List Cell)
  | [] => ([], [])
  | [c] => if c.char == '|' then ([], [(c, [])]) else ([c], [])
  | c :: d :: cells =>
    if c.char == '\\' && (d.char == '\\' || d.char == '|') then
      let (first, others) := cutAtBars cells
      (c :: d :: first, others)
    else
      let (first, others) := cutAtBars (d :: cells)
      if c.char == '|' then ([], (c, first) :: others) else (c :: first, others)

/-- A cell of a row: where it starts and ends, and its text. -/
structure RowCell where
  span : Span
  text : List Cell
  deriving Repr

/-- The cells of a row that ends at a point, each with the point where it starts. -/
def closeCells (stop : Point) : List (Point × List Cell) → List RowCell
  | [] => []
  | [(start, text)] => [⟨⟨start, stop⟩, trimGaps (skipGaps text)⟩]
  | (start, text) :: (next, other) :: rest =>
    ⟨⟨start, next⟩, trimGaps (skipGaps text)⟩ :: closeCells stop ((next, other) :: rest)

/-- The cells of a row.  What stands before a leading bar is no cell, and neither is an empty end
after other cells.  A cell starts with the bar in front of it, and reaches to the next cell. -/
def rowCells (stop : Point) (cells : List Cell) : List RowCell :=
  let line := skipGaps cells
  let (first, others) := cutAtBars line
  let head := if isBlankCells first then [] else [(startOf stop first, first)]
  let parts := head ++ others.map fun (bar, text) => (bar.start, text)
  let parts := match parts.reverse with
    | (_, last) :: part :: before =>
      if isBlankCells last then (part :: before).reverse else parts
    | _ => parts
  closeCells stop parts

/-! ## Heads -/

/-- The number of cells that a head has, and of the bars and words in it; `fresh` holds after a bar
and at the start of a line without one. -/
def countHead (fresh : Bool) (cells parts : Nat) : List Cell → Nat × Nat
  | [] => (cells, parts)
  | c :: rest =>
    if c.isGap then countHead fresh cells parts rest
    else
      let cells := if fresh then cells + 1 else cells
      if c.char == '|' then countHead true cells (parts + 1) rest
      else countWord cells (parts + 1) false rest
where
  /-- The rest of a word of a head, in which a bar may be escaped. -/
  countWord (cells parts : Nat) (escaped : Bool) : List Cell → Nat × Nat
  | [] => (cells, parts)
  | c :: rest =>
    if escaped && (c.char == '\\' || c.char == '|') then countWord cells parts false rest
    else if c.isGap then countHead false cells parts rest
    else if c.char == '|' then countHead true cells (parts + 1) rest
    else countWord cells parts (c.char == '\\') rest

/-- The number of cells of a line that may be the head of a table: a line with something other than
a single bar. -/
def headCells? (line : List Cell) : Option Nat :=
  let line := skipGaps line
  let fresh := (line.head?.map (·.char != '|')).getD true
  let (cells, parts) := countHead fresh 0 (if fresh then 1 else 0) line
  if 1 < parts then some cells else none

/-! ## Alignments -/

/-- The alignment that colons at the ends of a run of hyphens ask for. -/
def alignmentOf (left right : Bool) : Option CellAlign :=
  match left, right with
  | true, true => some .center
  | true, false => some .left
  | false, true => some .right
  | false, false => none

/-- The alignment of one column of the line of hyphens, and what follows it. -/
def column? (cells : List Cell) : Option (Option CellAlign × List Cell) :=
  let left := (cells.head?.map (·.char == ':')).getD false
  let hyphens := if left then cells.drop 1 else cells
  let length := runLengthOf '-' hyphens
  let rest := hyphens.drop length
  let right := (rest.head?.map (·.char == ':')).getD false
  if length = 0 then none
  else some (alignmentOf left right, skipGaps (if right then rest.drop 1 else rest))
where
  runLengthOf (c : Char) (cells : List Cell) : Nat := (cells.takeWhile (·.char == c)).length

/-- The columns of the line of hyphens from where a column may start; a bar may end the line.
There are at most as many columns as cells. -/
def columnsFrom? : (limit : Nat) → List Cell → Option (List (Option CellAlign))
  | 0, _ => none
  | limit + 1, cells =>
    match cells with
    | [] => some []
    | _ =>
      match column? cells with
      | none => none
      | some (alignment, rest) =>
        match rest with
        | [] => some [alignment]
        | bar :: rest =>
          if bar.char == '|' then
            (columnsFrom? limit (skipGaps rest)).map (alignment :: ·)
          else
            none

/-- The alignments of the columns, if a line is the one under a head.  It has a bar or a colon. -/
def columns? (cells : List Cell) : Option (List (Option CellAlign)) :=
  let line := skipGaps cells
  let marked := line.any fun c => c.char == '|' || c.char == ':'
  match line with
  | [] => none
  | c :: rest =>
    if !marked then none
    else columnsFrom? (line.length + 1) (if c.char == '|' then skipGaps rest else line)

end Folio.Markdown
