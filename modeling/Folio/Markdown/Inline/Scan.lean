import Folio.Markdown.Definition
import Folio.Markdown.Inline.Autolink
import Folio.Text.Offset

/-!
# Reading a text

The text of a block is read from left to right into parts.  A bracket that may start a link waits
until its partner shows what it is; what is read in between is kept with it.
-/

namespace Folio.Markdown

open Folio.Text

/-- What the reading of texts depends on. -/
structure TextContext where
  gfm : Bool
  jsx : Bool
  /-- The whole body, from which labels are taken. -/
  source : List Char
  /-- The identifiers that are defined. -/
  definitions : List String
  footnotes : List String

/-- What the body holds where some cells are, with the prefixes of containers in between. -/
def TextContext.raw (ctx : TextContext) (cells : List Cell) : List Char :=
  let span := cellSpan cells
  (slice? ctx.source span.start.offset span.stop.offset).getD (sourceOf cells)

/-- The kinds of bracket that a label may start with. -/
inductive BracketKind where
  | link
  | image
  | footnote
  deriving DecidableEq, Repr

/-- A bracket that waits for its partner. -/
structure Bracket where
  kind : BracketKind
  cells : List Cell
  /-- Whether it may still become a link. -/
  active : Bool := true
  /-- What was read since, in reverse. -/
  parts : List Inline := []
  deriving Repr

/-- What has been read of a text. -/
structure Scanned where
  /-- The brackets that wait, the innermost one first. -/
  brackets : List Bracket := []
  /-- The parts before all brackets, in reverse. -/
  parts : List Inline := []
  /-- The cell before the next one. -/
  before : Option Cell := none

namespace Scanned

/-- Adds a part. -/
def add (s : Scanned) (part : Inline) : Scanned :=
  match s.brackets with
  | [] => { s with parts := addInline part s.parts }
  | top :: rest => { s with brackets := { top with parts := addInline part top.parts } :: rest }

/-- Adds parts that are given in reverse. -/
def addAll (s : Scanned) (parts : List Inline) : Scanned :=
  parts.foldr (fun part s => s.add part) s

/-- Makes the innermost bracket plain text. -/
def dissolve (s : Scanned) : Scanned :=
  match s.brackets with
  | [] => s
  | top :: rest => ({ s with brackets := rest }.add (.data top.cells)).addAll top.parts

/-- All parts, the brackets that are left as plain text.  `steps` is the number of brackets. -/
def finish (s : Scanned) : (steps : Nat) → List Inline
  | 0 => s.parts.reverse
  | steps + 1 => s.dissolve.finish steps

end Scanned

/-! ## Code -/

/-- The cells up to a run of exactly `length` grave accents, and the cells from there.  `skip` cells
are known not to start such a run. -/
def codeRest? (length skip : Nat) : List Cell → Option (List Cell × List Cell)
  | [] => none
  | c :: cells =>
    match skip with
    | skip + 1 => (codeRest? length skip cells).map fun (inner, rest) => (c :: inner, rest)
    | 0 =>
      let run := runLengthOf (c :: cells)
      if run = length then some ([], c :: cells)
      else (codeRest? length (run - 1) cells).map fun (inner, rest) => (c :: inner, rest)
where
  runLengthOf (cells : List Cell) : Nat := (cells.takeWhile (·.char == '\x60')).length

/-- The value of a code span: one space at each end is dropped if there are two, with something
other than spaces between them. -/
def codeValue (value : List Char) : List Char :=
  if 2 < value.length && value.head? == some ' ' && value.getLast? == some ' ' &&
      value.any (· != ' ') then
    (value.drop 1).dropLast
  else value

/-- A table's text with its escaped bars as bars. -/
def plainBars : List Char → List Char
  | '\\' :: '|' :: rest => '|' :: plainBars rest
  | c :: rest => c :: plainBars rest
  | [] => []

/-- A code span at the front of some cells. -/
def codeSpan? (inTable : Bool) (cells : List Cell) : Option (Inline × List Cell) := do
  let length := (cells.takeWhile (·.char == '\x60')).length
  let (inner, rest) ← codeRest? length 0 (cells.drop length)
  let value := sourceOf inner
  let value := if inTable then plainBars value else value
  let span := cellSpan (cells.take 1 ++ rest.take length)
  return (.code (codeValue value) span, rest.drop length)

/-! ## Characters -/

/-- A character reference at the front of some cells. -/
def referenceSpan? (cells : List Cell) : Option (Inline × List Cell) := do
  let c :: rest := cells | none
  let (value, length) ← reference? (rest.takeWhile (!·.isEnding) |>.map (·.char))
  return (.written value (cellSpan (c :: rest.take length)), rest.drop length)

/-- What a backslash writes: the mark after it, or a break at the end of a line. -/
def escapeSpan? (cells : List Cell) : Option (Inline × List Cell) := do
  let c :: d :: rest := cells | none
  if d.isEnding then some (.hardBreak (cellSpan [c, d]), rest)
  else if isAsciiMark d.char then some (.written [d.char] (cellSpan [c, d]), rest)
  else none

/-! ## Ends of labels -/

/-- The destination and the title in parentheses after a label, and what follows. -/
def resource? (cells : List Cell) : Option (LinkTarget × List Cell) := do
  let c :: rest := cells | none
  if c.char ≠ '(' then none
  let rest := skipGapsAndEnding rest
  match rest with
  | [] => none
  | d :: after =>
    if d.char = ')' then some (.resource "" none, after)
    else do
      let (url, rest) ← destination? 32 rest
      let between := gapsAndEnding? rest
      let (title, rest) ← match between.bind fun rest =>
          if (rest.head?.map fun c => "\"'(".toList.contains c.char).getD false then some rest
          else none with
        | some rest => (title? rest).map fun (title, rest) => (some title, skipGapsAndEnding rest)
        | none => some (none, between.getD rest)
      let e :: rest := rest | none
      if e.char ≠ ')' then none
      return (.resource (writtenText url) (title.map writtenText), rest)

/-- The label of a definition in brackets after a label, and what follows. -/
def fullReference? (ctx : TextContext) (cells : List Cell) : Option (LinkTarget × List Cell) := do
  let (label, rest) ← label? cells
  let identifier := identifierOf (ctx.raw label)
  if ctx.definitions.contains identifier then
    return (.reference identifier (some (writtenText label)) .full, rest)
  else none

/-- What a label is a link to, given its identifier and the cells after it, and what follows.  A
label in front of a bracket is never a link on its own. -/
def labelTarget? (ctx : TextContext) (identifier : String) (cells : List Cell) :
    Option (LinkTarget × List Cell) :=
  let defined := ctx.definitions.contains identifier
  let shortcut : Option (LinkTarget × List Cell) :=
    if defined then some (.reference identifier none .shortcut, cells) else none
  match cells.map (·.char) |>.head? with
  | some '(' => resource? cells <|> shortcut
  | some '[' =>
    let collapsed : Option (LinkTarget × List Cell) :=
      match cells with
      | _ :: d :: rest =>
        if defined && d.char == ']' then some (.reference identifier none .collapsed, rest)
        else none
      | _ => none
    fullReference? ctx cells <|> collapsed
  | _ => shortcut

/-- Brackets with those that a link must not be in made inactive. -/
def deactivate (brackets : List Bracket) : List Bracket :=
  brackets.map fun b => if b.kind = .image then b else { b with active := false }

/-- Closes the innermost bracket with a cell. -/
def closeBracket (ctx : TextContext) (s : Scanned) (c : Cell) (rest : List Cell) :
    Scanned × List Cell :=
  let plain (s : Scanned) : Scanned × List Cell := (s.dissolve.add (.data [c]), rest)
  match s.brackets with
  | [] => (s.add (.data [c]), rest)
  | top :: outer =>
    if !top.active then plain s
    else
      let start := (cellSpan top.cells).start
      let label := (slice? ctx.source (stopOf c.start top.cells).offset c.start.offset).getD []
      let enclose (kind : Enclosure) (stop : Point) (parts : List Inline) : Scanned :=
        let outer := if top.kind = .image then outer else deactivate outer
        { s with brackets := outer }.add (.enclosed kind ⟨start, stop⟩ (pairMarks parts))
      let identifier := identifierOf label
      if top.kind = .footnote ∧ identifier ∈ ctx.footnotes then
        (enclose (.footnote identifier) c.stop top.parts.reverse, rest)
      else
        let caret := if top.kind = .footnote then top.cells.drop 1 else []
        let identifier :=
          if caret.isEmpty then identifier else identifierOf ('^' :: label)
        match labelTarget? ctx identifier rest with
        | none => plain s
        | some (target, after) =>
          let taken := rest.take (rest.length - after.length)
          let stop := stopOf c.stop taken
          let parts := top.parts.reverse
          let parts := if caret.isEmpty then parts else .data caret :: parts
          let kind := if top.kind = .image then Enclosure.image target else .link target
          (enclose kind stop parts, after)

/-! ## Tags -/

/-- A tag at the front of some cells, or the place where it is malformed. -/
def tagSpan? (bracket : Cell) (cells : List Cell) : Except Point (Option (Inline × List Cell)) :=
  match (OpenTag.ofBracket bracket.start).run cells with
  | .complete tag rest => .ok (some (.tag tag, rest))
  | .refused => .ok none
  | .malformed place => .error place
  | .open_ tag => if tag.endIsMalformed then .error (stopOf bracket.stop cells) else .ok none

/-! ## The walk -/

/-- Whether a character has no meaning of its own in a text. -/
def isPlain (c : Char) : Bool :=
  !("!&*<HW[\\]_`hw~\n".toList.contains c)

/-- What stands at the front of some cells, other than brackets and plain characters. -/
def span? (ctx : TextContext) (inTable : Bool) (before : Option Char) (c : Cell)
    (rest : List Cell) :
    Except Point (Option (Inline × List Cell)) :=
  let web : Option (Inline × List Cell) := if ctx.gfm then webLink? before (c :: rest) else none
  match c.char with
  | '\x60' => .ok (codeSpan? inTable (c :: rest))
  | '&' => .ok (referenceSpan? (c :: rest))
  | '\\' => .ok (escapeSpan? (c :: rest))
  | '<' =>
    match bracketed? c rest with
    | some found => .ok (some found)
    | none => if ctx.jsx then tagSpan? c rest else .ok none
  | 'h' => .ok web
  | 'H' => .ok web
  | 'w' => .ok web
  | 'W' => .ok web
  | mark =>
    if isAttentionMark ctx.gfm mark then
      let cells := c :: rest.takeWhile (·.char == mark)
      .ok (some (.marks (markRun ctx.gfm mark cells), rest.dropWhile (·.char == mark)))
    else .ok none

/-- Reads what stands at the front of some cells. -/
def scanStep (ctx : TextContext) (inTable : Bool) (s : Scanned) (c : Cell) (rest : List Cell) :
    Except Point (Scanned × List Cell) := do
  let open_ (kind : BracketKind) (cells rest : List Cell) : Scanned × List Cell :=
    ({ s with brackets := { kind, cells } :: s.brackets }, rest)
  let caret := (rest.head?.map (·.char == '^')).getD false
  match c.char, rest with
  | '!', d :: rest' =>
    let caret := (rest'.head?.map (·.char == '^')).getD false
    if d.char == '[' && !(ctx.gfm && caret) then return open_ .image [c, d] rest'
    else return (s.add (.data [c]), rest)
  | '[', d :: rest' =>
    if ctx.gfm && caret then return open_ .footnote [c, d] rest'
    else return open_ .link [c] rest
  | '[', [] => return open_ .link [c] []
  | ']', _ => return closeBracket ctx s c rest
  | '\n', _ => return (s.add (.ending c), rest)
  | '\x60', _ =>
    match ← span? ctx inTable (s.before.map (·.char)) c rest with
    | some (part, rest) => return (s.add part, rest)
    | none =>
      let run := c :: rest.takeWhile (·.char == '\x60')
      return (s.add (.data run), rest.dropWhile (·.char == '\x60'))
  | _, _ =>
    match ← span? ctx inTable (s.before.map (·.char)) c rest with
    | some (part, rest) => return (s.add part, rest)
    | none =>
      let more := rest.takeWhile (isPlain ·.char)
      return (s.add (.data (c :: more)), rest.drop more.length)

/-- Reads a text.  Each step takes at least one cell, so as many steps as there are cells are
enough. -/
def scanFrom (ctx : TextContext) (inTable : Bool) : (steps : Nat) → Scanned → List Cell →
    Except Point (List Inline)
  | 0, s, _ => .ok (s.finish s.brackets.length)
  | steps + 1, s, cells =>
    match cells with
    | [] => .ok (s.finish s.brackets.length)
    | c :: rest => do
      let (s, after) ← scanStep ctx inTable s c rest
      let taken := cells.length - after.length
      scanFrom ctx inTable steps { s with before := (cells.take taken).getLast? } after

/-- The parts of a text, with its emphasis. -/
def scan (ctx : TextContext) (inTable : Bool) (cells : List Cell) : Except Point (List Inline) := do
  return pairMarks (← scanFrom ctx inTable cells.length {} cells)

end Folio.Markdown
