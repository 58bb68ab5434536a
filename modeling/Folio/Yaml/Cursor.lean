/-!
# Places in a YAML text

A cursor is the rest of a text together with the place where it starts.  The structure of YAML
depends on columns, so every step over a character keeps them.
-/

namespace Folio.Yaml

/-! ## Characters -/

/-- Whether a YAML text may hold the character. -/
def isPermitted (c : Char) : Bool :=
  c == '\t' || c == '\n' || c == '\r' || (' ' ≤ c && c ≤ '~') || c == '\u0085' || '\u00a0' ≤ c &&
    c != '\ufffe' && c != '\uffff'

/-- A space or a tab. -/
def isBlank (c : Char) : Bool :=
  c == ' ' || c == '\t'

/-- Whether the character ends a line. -/
def isBreak (c : Char) : Bool :=
  c == '\n' || c == '\r' || c == '\u0085' || c == '\u2028' || c == '\u2029'

/-- Whether there is a blank, the end of a line or the end of the text. -/
def isGap : Option Char → Bool
  | none => true
  | some c => isBlank c || isBreak c

/-- Whether the character may be in the name of an anchor, a directive or a tag handle. -/
def isWordChar (c : Char) : Bool :=
  c.isAlphanum || c == '_' || c == '-'

/-- The character that the end of a line adds to a scalar. -/
def lineEnding (c : Char) : Char :=
  if c == '\u2028' || c == '\u2029' then c else '\n'

/-! ## Places -/

/-- A place in a text, counted in characters from zero. -/
structure Position where
  line : Nat := 0
  column : Nat := 0
  offset : Nat := 0
  deriving DecidableEq, Repr, Inhabited

/-- The place some characters further on the line. -/
def Position.advance (p : Position) (n : Nat) : Position :=
  { p with column := p.column + n, offset := p.offset + n }

/-- The start of the next line, after an ending of `n` characters. -/
def Position.nextLine (p : Position) (n : Nat) : Position :=
  ⟨p.line + 1, 0, p.offset + n⟩

/-- The rest of a text and the place where it starts. -/
structure Cursor where
  rest : List Char
  place : Position := {}
  deriving DecidableEq, Repr, Inhabited

namespace Cursor

/-- The column of the rest. -/
def column (c : Cursor) : Nat := c.place.column

/-- The first character of the rest. -/
def char? (c : Cursor) : Option Char := c.rest.head?

/-- The character some places further. -/
def charAt? (c : Cursor) (n : Nat) : Option Char := c.rest[n]?

/-- The rest without some characters, none of which ends a line. -/
def drop (c : Cursor) (n : Nat) : Cursor :=
  ⟨c.rest.drop n, c.place.advance n⟩

/-- The longest run of characters in front that satisfy `p`, none of which ends a line, and what
comes after. -/
def span (p : Char → Bool) (c : Cursor) : List Char × Cursor :=
  let taken := c.rest.takeWhile p
  (taken, c.drop taken.length)

/-- The rest after its leading blanks. -/
def skipBlanks (c : Cursor) : Cursor :=
  (c.span isBlank).2

/-- What the end of the line in front adds to a scalar, and what comes after.  Without one nothing
is added. -/
def takeBreak (c : Cursor) : List Char × Cursor :=
  match c.rest with
  | '\r' :: '\n' :: rest => (['\n'], ⟨rest, c.place.nextLine 2⟩)
  | d :: rest => if isBreak d then ([lineEnding d], ⟨rest, c.place.nextLine 1⟩) else ([], c)
  | [] => ([], c)

/-- What comes after blanks, a comment and the end of the line, if there is nothing else on the
line. -/
def finishLine? (c : Cursor) : Option Cursor :=
  let c := c.skipBlanks
  let c := if c.char? = some '#' then (c.span fun d => !isBreak d).2 else c
  if isGap c.char? then some c.takeBreak.2 else none

/-- Whether the rest starts with the marker of a document's start or end, three times the
character. -/
def startsMarker (c : Cursor) (d : Char) : Bool :=
  c.column == 0 && [d, d, d].isPrefixOf c.rest && isGap (c.charAt? 3)

/-- Whether the rest starts with a marker of a document. -/
def atMarker (c : Cursor) : Bool :=
  c.startsMarker '-' || c.startsMarker '.'

end Cursor

end Folio.Yaml
