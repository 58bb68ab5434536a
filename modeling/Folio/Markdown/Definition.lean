import Folio.Markdown.CharacterReference
import Folio.Markdown.Identifier
import Folio.Markdown.Layout

/-!
# Labels, destinations and titles

The parts that links and definitions are made of, and definitions themselves.  Each reader gives
what it has read and the cells that follow.
-/

namespace Folio.Markdown

open Folio.Text

/-! ## Texts -/

/-- Cells without the spaces and tabs around line endings.  `afterEnding` holds at the start of a
line that is not the first. -/
def trimLines (afterEnding : Bool) : List Cell → List Cell
  | [] => []
  | c :: cells =>
    if c.isEnding then c :: trimLines true cells
    else if c.isGap then
      if afterEnding then trimLines true cells
      else if ((skipGaps cells).head?.map Cell.isEnding).getD false then trimLines false cells
      else c :: trimLines false cells
    else c :: trimLines false cells

/-- The text that cells write: escapes undone, references replaced, and the white space around line
endings dropped. -/
def writtenText (cells : List Cell) : String :=
  String.ofList (unescape (sourceOf (trimLines false cells)))

/-! ## White space -/

/-- The cells after spaces and tabs, at most one line ending among them. -/
def skipGapsAndEnding (cells : List Cell) : List Cell :=
  match skipGaps cells with
  | c :: rest => if c.isEnding then skipGaps rest else c :: rest
  | [] => []

/-- The cells after spaces, tabs and at most one line ending, if there is anything of that. -/
def gapsAndEnding? (cells : List Cell) : Option (List Cell) :=
  match cells with
  | c :: _ => if c.isGap || c.isEnding then some (skipGapsAndEnding cells) else none
  | [] => none

/-- Whether the cells start with a line ending, or there are none. -/
def atLineEnd (cells : List Cell) : Bool :=
  (cells.head?.map Cell.isEnding).getD true

/-! ## Runs with escapes -/

/-- Whether a backslash makes the cell after it stand for itself. -/
def escapes (marks : List Char) (c : Cell) (rest : List Cell) : Bool :=
  c.char == '\\' && (rest.head?.map fun d => d.char == '\\' || marks.contains d.char).getD false

/-! ## Labels -/

/-- The cells of a label up to its closing bracket, and what follows that.  A label holds something
other than white space, and no bracket unless it is `escaped`; `limit` is how much it may still
hold. -/
def labelRest? (seen escaped : Bool) : (limit : Nat) → List Cell → Option (List Cell × List Cell)
  | _, [] => none
  | limit, c :: rest =>
    if c.char = ']' ∧ escaped = false then if seen then some ([], rest) else none
    else if c.char = '[' ∧ escaped = false then none
    else
      match limit with
      | 0 => none
      | limit + 1 =>
        let seen := seen || !(c.isGap || c.isEnding)
        let escaped := !escaped && escapes ['[', ']'] c rest
        (labelRest? seen escaped limit rest).map fun (label, rest) => (c :: label, rest)

/-- The most characters that a label has. -/
def labelLimit : Nat := 999

/-- A label between brackets, and what follows it. -/
def label? (cells : List Cell) : Option (List Cell × List Cell) :=
  match cells with
  | c :: rest => if c.char = '[' then labelRest? false false labelLimit rest else none
  | [] => none

/-! ## Destinations -/

/-- The cells of a destination up to its closing angle bracket on the same line, and what follows
that. -/
def enclosedRest? (escaped : Bool) : List Cell → Option (List Cell × List Cell)
  | [] => none
  | c :: rest =>
    if c.isEnding then none
    else if c.char = '<' ∧ escaped = false then none
    else if c.char = '>' ∧ escaped = false then some ([], rest)
    else
      let escaped := !escaped && escapes ['<', '>'] c rest
      (enclosedRest? escaped rest).map fun (inner, rest) => (c :: inner, rest)

/-- Whether a character is a control of ASCII. -/
def isControl (c : Char) : Bool :=
  c.toNat < 0x20 || c.toNat = 0x7f

/-- The cells of a bare destination, and what follows it: no blanks and no controls, and parentheses
only in pairs, `limit` deep.  `depth` are open. -/
def bareRest? (limit depth : Nat) (escaped : Bool) : List Cell → Option (List Cell × List Cell)
  | [] => if depth = 0 then some ([], []) else none
  | c :: rest =>
    if c.isGap || c.isEnding then if depth = 0 then some ([], c :: rest) else none
    else if isControl c.char then none
    else if escaped then
      (bareRest? limit depth false rest).map fun (inner, rest) => (c :: inner, rest)
    else if c.char = ')' ∧ depth = 0 then some ([], c :: rest)
    else if c.char = '(' ∧ limit ≤ depth then none
    else
      let depth := if c.char = '(' then depth + 1 else if c.char = ')' then depth - 1 else depth
      (bareRest? limit depth (escapes ['(', ')'] c rest) rest).map
        fun (inner, rest) => (c :: inner, rest)

/-- A destination, in angle brackets or bare, and what follows it; a bare one is not empty. -/
def destination? (limit : Nat) (cells : List Cell) : Option (List Cell × List Cell) :=
  match cells with
  | [] => none
  | c :: rest =>
    if c.char = '<' then enclosedRest? false rest
    else if c.isGap || isControl c.char || c.char = ')' then none
    else bareRest? limit 0 false cells

/-! ## Titles -/

/-- The cells of a title up to its closing mark, and what follows that. -/
def titleRest? (close : Char) (escaped : Bool) : List Cell → Option (List Cell × List Cell)
  | [] => none
  | c :: rest =>
    if c.char = close ∧ escaped = false then some ([], rest)
    else
      let escaped := !escaped && escapes [close] c rest
      (titleRest? close escaped rest).map fun (inner, rest) => (c :: inner, rest)

/-- A title between quotes or parentheses, and what follows it. -/
def title? (cells : List Cell) : Option (List Cell × List Cell) :=
  match cells with
  | c :: rest =>
    if c.char = '"' ∨ c.char = '\'' then titleRest? c.char false rest
    else if c.char = '(' then titleRest? ')' false rest
    else none
  | [] => none

/-! ## Definitions -/

/-- A definition, and where it ends. -/
structure Definition where
  label : List Cell
  url : List Cell
  title : Option (List Cell)
  stop : Point
  deriving Repr

/-- The title of a definition at the end of a line, after white space, and what follows it. -/
def definitionTitle? (cells : List Cell) : Option (List Cell × List Cell) := do
  let cells ← gapsAndEnding? cells
  let (title, rest) ← title? cells
  let rest := skipGaps rest
  if atLineEnd rest then some (title, rest) else none

/-- A definition at the front of some cells; what follows starts with a line ending.  `stop` is
where the cells end. -/
def definition? (stop : Point) (cells : List Cell) : Option (Definition × List Cell) := do
  let (label, rest) ← label? (skipGaps cells)
  let c :: rest := rest | none
  if c.char ≠ ':' then none
  let (url, rest) ← destination? cells.length (skipGapsAndEnding rest)
  let (title, rest) ← match definitionTitle? rest with
    | some (title, rest) => some (some title, rest)
    | none =>
      let rest := skipGaps rest
      if atLineEnd rest then some (none, rest) else none
  return ({ label, url, title, stop := startOf stop rest }, rest)

end Folio.Markdown
