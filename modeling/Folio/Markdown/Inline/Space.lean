import Folio.Markdown.Inline.Basic

/-!
# White space in texts

Spaces and tabs at the ends of a text and of its lines are dropped.  Two or more spaces before a
line ending make it a hard break.
-/

namespace Folio.Markdown

/-- The data that is left of cells, and the spaces at their end. -/
def splitEnd (cells : List Cell) : List Cell × List Cell :=
  let kept := trimGaps cells
  (kept, cells.drop kept.length)

/-- The data of cells, if there are any. -/
def dataOf (cells : List Cell) : List Inline :=
  if cells.isEmpty then [] else [.data cells]

/-- Whether so many cells before a line ending make it a hard break. -/
def breaksHard (gaps : List Cell) : Bool :=
  2 ≤ gaps.length && gaps.all (·.char == ' ')

mutual

/-- A part with the spaces around its line endings dropped. -/
def Inline.spaced : Inline → Inline
  | .enclosed kind span parts => .enclosed kind span (spaced false false parts)
  | part => part

/-- Parts with the spaces around their line endings dropped, and those at the two ends if
`lineStart` and `lineEnd` say so. -/
def spaced (lineStart lineEnd : Bool) : List Inline → List Inline
  | [] => []
  | [.data cells] =>
    let cells := if lineEnd then trimGaps cells else cells
    dataOf (if lineStart then skipGaps cells else cells)
  | .data cells :: .ending c :: parts =>
    let (kept, gaps) := splitEnd cells
    let kept := if lineStart then skipGaps kept else kept
    if breaksHard gaps then
      dataOf kept ++ .hardBreak (cellSpan (gaps ++ [c])) :: spaced true lineEnd parts
    else
      dataOf kept ++ .ending c :: spaced true lineEnd parts
  | .data cells :: parts =>
    dataOf (if lineStart then skipGaps cells else cells) ++ spaced false lineEnd parts
  | .ending c :: parts => .ending c :: spaced true lineEnd parts
  | .hardBreak span :: parts => .hardBreak span :: spaced true lineEnd parts
  | part :: parts => part.spaced :: spaced false lineEnd parts

end

end Folio.Markdown
