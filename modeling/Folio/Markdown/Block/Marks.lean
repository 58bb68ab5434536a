import Folio.Markdown.Layout

/-!
# Blocks of one line

Headings, rules, the lines under headings, and the lines that open and close fenced code, each read
off the cells of one line after the prefix of its containers.
-/

namespace Folio.Markdown

open Folio.Text

/-- The number of equal characters a run of cells starts with. -/
def runLength (c : Char) (cells : List Cell) : Nat :=
  (cells.takeWhile (·.char == c)).length

/-- Whether the cells start with a space or a tab, or there are none. -/
def startsBlank (cells : List Cell) : Bool :=
  (cells.head?.map Cell.isGap).getD true

/-! ## Headings -/

/-- The last part of a heading's line that belongs to its text: closing number signs, which stand
alone or in front of a word, do not.  `word` tells whether the word before has anything else. -/
def dropClosing (cells : List Cell) : List Cell :=
  let ends := (cells.zipIdx.filter fun (c, i) =>
    !c.isGap && ((cells.take (i + 1)).reverse.takeWhile (!·.isGap)).any (·.char != '#'))
  match ends.getLast? with
  | some (_, i) => cells.take (i + 1)
  | none => []

/-- A heading: one to six number signs before a space, a tab or the end of the line.  Its text
starts and ends with something other than a closing sign. -/
def headingLine? (cells : List Cell) : Option (Nat × List Cell) :=
  let line := skipGaps cells
  let depth := runLength '#' line
  let rest := line.drop depth
  if 1 ≤ depth && depth ≤ 6 && startsBlank rest then
    some (depth, dropClosing (rest.dropWhile fun c => c.isGap || c.char == '#'))
  else
    none

/-- The depth of the heading that a line under a paragraph makes it. -/
def underlineDepth? (cells : List Cell) : Option Nat :=
  match skipGaps cells with
  | [] => none
  | c :: rest =>
    let depth := if c.char == '=' then some 1 else if c.char == '-' then some 2 else none
    if isBlankCells (rest.dropWhile (·.char == c.char)) then depth else none

/-- Whether a line is a rule: three or more equal stars, hyphens or low lines. -/
def isRule (cells : List Cell) : Bool :=
  match skipGaps cells with
  | [] => false
  | c :: rest =>
    (c.char == '*' || c.char == '-' || c.char == '_') &&
      rest.all (fun d => d.isGap || d.char == c.char) &&
      2 ≤ (rest.filter (·.char == c.char)).length

/-! ## Fences -/

/-- The line that opens a fence. -/
structure FenceOpener where
  marker : Char
  length : Nat
  /-- How far the fence is indented. -/
  indent : Nat
  /-- The first word after the fence, and the rest of the line. -/
  language : List Cell
  note : List Cell
  deriving Repr, Inhabited

/-- The fence a line opens.  The words after a fence of grave accents hold none. -/
def fenceOpener? (cells : List Cell) : Option FenceOpener :=
  let line := skipGaps cells
  match line with
  | [] => none
  | c :: _ =>
    let length := runLength c.char line
    let info := skipGaps (line.drop length)
    if (c.char == '\x60' || c.char == '~') && 3 ≤ length &&
        (c.char == '~' || info.all (·.char != '\x60')) then
      some {
        marker := c.char
        length
        indent := runSize (cells.take (cells.length - line.length)) line
        language := info.takeWhile (!·.isGap)
        note := skipGaps (info.dropWhile (!·.isGap)) }
    else
      none

/-- Whether a line closes a fence. -/
def closesFence (marker : Char) (length : Nat) (cells : List Cell) : Bool :=
  let line := skipGaps cells
  let run := runLength marker line
  length ≤ run && isBlankCells (line.drop run)

end Folio.Markdown
