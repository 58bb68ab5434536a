import Folio.Fence
import Folio.Slug

/-!
# Outlines

The table of contents of a body: its headings of the second to the fourth level.  It can be read
off the text alone, line by line and past fenced code, or off a compiled tree.
-/

namespace Folio

open Folio.Text

/-- A heading in a table of contents. -/
structure Heading where
  level : Nat
  text : String
  href : String
  deriving DecidableEq, Repr, Inhabited

/-- A heading whose link is made from its text. -/
def Heading.ofText (level : Nat) (text : String) : Heading where
  level
  text
  href := "#" ++ slug text

/-- Where the table of contents of a document comes from. -/
inductive OutlineSource where
  | text
  | tree
  deriving DecidableEq, Repr, Inhabited

/-- The heading a line writes: two to four number signs, one space, and a text that is not blank.
White space at its end does not count. -/
def lineHeading? (line : List Char) : Option Heading :=
  let marks := line.takeWhile (· == '#')
  let level := marks.length
  match line.dropWhile (· == '#') with
  | ' ' :: rest =>
    let text := trimEnd rest
    if 2 ≤ level && level ≤ 4 && !text.isEmpty then
      some (Heading.ofText level (String.ofList text))
    else
      none
  | _ => none

/-- The headings of lines read from a fence state on; lines of a fence write none. -/
def lineHeadings (state : Fence.State) : List (List Char) → List Heading
  | [] => []
  | line :: lines =>
    let outcome := state.advance line
    let rest := lineHeadings outcome.next lines
    if outcome.inFence then rest
    else (lineHeading? (dropEndWhile (· == '\r') line)).toList ++ rest

/-- The headings a body writes, in order. -/
def textOutline (body : String) : List Heading :=
  lineHeadings {} (lines body.toList)

end Folio
