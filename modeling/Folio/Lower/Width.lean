import Folio.Fence
import Folio.Markdown.Markup
import Folio.Text.Offset

/-!
# Container widths

How many bytes of each line a block quote or a list item takes for its own prefix, measured on the
source at the place where the container starts; and the interior of a fenced block, cut out of the
source by the width of its container.
-/

namespace Folio.Lower

open Folio.Text Folio.Markdown

/-- The bytes between the start of its line and an offset. -/
def columnOf (source : List Char) (offset : Nat) : Nat :=
  match take? source offset with
  | some before => byteSize (splitLastLine before).2
  | none => offset

/-- The number of spaces and tabs a text starts with. -/
def leadingIndents (cs : List Char) : Nat :=
  (cs.takeWhile isIndent).length

/-- The width of a block quote: its indent, the quote marker, and one space or tab after it. -/
def quoteWidth? (source : List Char) (span : Option Span) : Option Nat := do
  let start := (← span).start.offset
  let line ← drop? source start
  let indent := leadingIndents line
  let '>' :: rest := line.drop indent | none
  let space := if (rest.head?.map isIndent).getD false then 1 else 0
  return columnOf source start + indent + 1 + space

/-- The width of a list item: its indent, its marker, and the one to four spaces up to its
content.  Without content on the line, or after more spaces, the gap is one. -/
def itemWidth? (source : List Char) (span : Option Span) : Option Nat := do
  let start := (← span).start.offset
  let line ← (lines (← drop? source start)).head?
  let indent := leadingIndents line
  let line := line.drop indent
  let marker := (line.takeWhile Char.isDigit).length + 1
  let after ← drop? line marker
  let spaces := (after.takeWhile (· == ' ')).length
  let gap := if spaces == 0 || 4 < spaces || spaces == byteSize after then 1 else spaces
  return columnOf source start + indent + marker + gap

/-- What cutting the interior of a fenced block out of the source gives. -/
inductive Cut where
  /-- The block has no stretch of source. -/
  | absent
  | interior (text : String)
  /-- The block is not closed; its first character, and where it starts. -/
  | unclosed (marker : Char) (start : Point)
  deriving DecidableEq, Repr

/-- Cuts the interior of a fenced block out of the source. -/
def cut (source : List Char) (width : Nat) (span : Option Span) : Cut :=
  match span with
  | none => .absent
  | some span =>
    match slice? source span.start.offset span.stop.offset with
    | none => .absent
    | some block =>
      match Fence.interior? block width with
      | some interior => .interior (String.ofList interior)
      | none => .unclosed (block.head?.getD '\x60') span.start

end Folio.Lower
