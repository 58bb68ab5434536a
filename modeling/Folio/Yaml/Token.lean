import Folio.Yaml.Scalar
import Folio.Yaml.Tag

/-!
# Tokens of YAML text

The tokens of a text, with the start and the end of each collection that is told by indentation made
explicit.  Whether a scalar is a key shows only at the colon after it, so the place of each token
that may be a key is kept until then, and the tokens that start a mapping are put in front of it.
-/

namespace Folio.Yaml

/-- The smallest parts of a YAML text. -/
inductive Token where
  | directive (line : Directive)
  | documentStart
  | documentEnd
  | startItems
  | startEntries
  /-- The end of a collection told by indentation. -/
  | endBlock
  | openItems
  | closeItems
  | openEntries
  | closeEntries
  /-- The dash in front of an item. -/
  | item
  | comma
  | key
  | value
  | alias (name : String)
  | anchor (name : String)
  | tag (tag : TagText)
  | scalar (style : Style) (text : String)
  deriving DecidableEq, Repr

/-- A token that a colon would turn into a key. -/
structure KeyMark where
  /-- The number of tokens before it. -/
  index : Nat
  place : Position
  /-- Whether it stands where nothing but a key can be. -/
  isRequired : Bool
  deriving DecidableEq, Repr

/-- A text that is partly cut into tokens. -/
structure Scanner where
  cursor : Cursor
  tokens : Array Token := #[]
  /-- The columns of the open block collections, innermost first. -/
  columns : List Nat := []
  /-- The token that may be a key in the innermost collection. -/
  mark : Option KeyMark := none
  /-- The tokens that may be keys around each open flow collection, innermost first. -/
  outer : List (Option KeyMark) := []
  /-- Whether a key may start here. -/
  keyAllowed : Bool := true

namespace Scanner

/-- Whether a flow collection is open. -/
def inFlow (s : Scanner) : Bool := !s.outer.isEmpty

/-- The column of the innermost block collection, one less than the first without any. -/
def column (s : Scanner) : Int :=
  match s.columns with
  | [] => -1
  | n :: _ => n

/-- Adds a token that leads to a place. -/
def push (s : Scanner) (token : Token) (cursor : Cursor) : Scanner :=
  { s with tokens := s.tokens.push token, cursor }

/-! ## Block collections -/

/-- Closes the block collections whose column is after a column. -/
def closeBlocks (s : Scanner) (column : Int) : Scanner :=
  if s.inFlow then s
  else
    let closed := s.columns.takeWhile fun (n : Nat) => column < n
    { s with
      columns := s.columns.drop closed.length
      tokens := s.tokens ++ Array.replicate closed.length .endBlock }

/-- Opens a block collection at a column, if that is after the innermost one; its first token is put
after `index` tokens. -/
def openBlock (s : Scanner) (column index : Nat) (token : Token) : Scanner :=
  if s.inFlow || (column : Int) ≤ s.column then s
  else { s with columns := column :: s.columns, tokens := s.tokens.insertIdxIfInBounds index token }

/-! ## Keys -/

/-- Whether a token is too far back to be a key: on another line or too many characters away. -/
def isStale (s : Scanner) (mark : KeyMark) : Bool :=
  mark.place.line < s.cursor.place.line || mark.place.offset + 1024 < s.cursor.place.offset

/-- Gives up a token that is too far back to be a key, unless it has to be one. -/
def refresh? (s : Scanner) (mark : Option KeyMark) : Option (Option KeyMark) :=
  match mark with
  | some mark => if s.isStale mark then (if mark.isRequired then none else some none) else some mark
  | none => some none

/-- Gives up the tokens that are too far back to be keys. -/
def refreshKeys? (s : Scanner) : Option Scanner := do
  return { s with mark := ← s.refresh? s.mark, outer := ← s.outer.mapM s.refresh? }

/-- Gives up the token that may be a key, unless it has to be one. -/
def dropKey? (s : Scanner) : Option Scanner :=
  if (s.mark.map (·.isRequired)).getD false then none else some { s with mark := none }

/-- Marks the next token as one that may be a key. -/
def markKey? (s : Scanner) : Option Scanner :=
  if s.keyAllowed then do
    let isRequired := !s.inFlow && s.column == s.cursor.column
    let s ← s.dropKey?
    return { s with mark := some ⟨s.tokens.size, s.cursor.place, isRequired⟩, keyAllowed := false }
  else
    some s

/-! ## Space between tokens -/

/-- The scanner after the space, comments and line breaks before the next token.  Tabs may not be
where a key may start. -/
def skipFrom (inFlow keyAllowed inComment : Bool) (p : Position) : List Char → Bool × Cursor
  | '\r' :: '\n' :: cs => skipFrom inFlow (keyAllowed || !inFlow) false (p.nextLine 2) cs
  | c :: cs =>
    if isBreak c then skipFrom inFlow (keyAllowed || !inFlow) false (p.nextLine 1) cs
    else if inComment || c == ' ' || (c == '\t' && (inFlow || !keyAllowed)) ||
        (c == '\ufeff' && p.column == 0) then
      skipFrom inFlow keyAllowed inComment (p.advance 1) cs
    else if c == '#' then skipFrom inFlow keyAllowed true (p.advance 1) cs
    else (keyAllowed, ⟨c :: cs, p⟩)
  | [] => (keyAllowed, ⟨[], p⟩)

/-- The scanner after the space before the next token. -/
def skipSpace (s : Scanner) : Scanner :=
  let (keyAllowed, cursor) := skipFrom s.inFlow s.keyAllowed false s.cursor.place s.cursor.rest
  { s with keyAllowed, cursor }

/-! ## Tokens -/

/-- Reads a directive, or the marker of a document's start or end. -/
def betweenDocuments? (s : Scanner) (token : Token) (cursor : Cursor) : Option Scanner := do
  let s ← (s.closeBlocks (-1)).dropKey?
  return { s with keyAllowed := false }.push token cursor

/-- Opens a flow collection. -/
def openFlow? (s : Scanner) (token : Token) : Option Scanner := do
  let s ← s.markKey?
  return { s with outer := s.mark :: s.outer, mark := none, keyAllowed := true }.push token
    (s.cursor.drop 1)

/-- Closes a flow collection. -/
def closeFlow? (s : Scanner) (token : Token) : Option Scanner := do
  let s ← s.dropKey?
  let s := match s.outer with
    | mark :: outer => { s with mark, outer }
    | [] => s
  return { s with keyAllowed := false }.push token (s.cursor.drop 1)

/-- Reads the comma between parts of a flow collection. -/
def comma? (s : Scanner) : Option Scanner := do
  let s ← s.dropKey?
  return { s with keyAllowed := true }.push .comma (s.cursor.drop 1)

/-- Opens a block collection at the next token, which has to be where a key may start. -/
def startBlock? (s : Scanner) (token : Token) : Option Scanner :=
  if s.inFlow then some s
  else if s.keyAllowed then some (s.openBlock s.cursor.column s.tokens.size token)
  else none

/-- Reads the dash in front of an item. -/
def item? (s : Scanner) : Option Scanner := do
  let s ← (← s.startBlock? .startItems).dropKey?
  return { s with keyAllowed := true }.push .item (s.cursor.drop 1)

/-- Reads the question mark in front of a key. -/
def key? (s : Scanner) : Option Scanner := do
  let s ← (← s.startBlock? .startEntries).dropKey?
  return { s with keyAllowed := !s.inFlow }.push .key (s.cursor.drop 1)

/-- Reads the colon in front of a value.  The token that may be a key is one now. -/
def value? (s : Scanner) : Option Scanner :=
  match s.mark with
  | some mark =>
    let s := { s with tokens := s.tokens.insertIdxIfInBounds mark.index .key }
    let s := s.openBlock mark.place.column mark.index .startEntries
    some ({ s with mark := none, keyAllowed := false }.push .value (s.cursor.drop 1))
  | none => do
    let s ← s.startBlock? .startEntries
    return { s with keyAllowed := !s.inFlow }.push .value (s.cursor.drop 1)

/-- Reads an alias, an anchor, a tag or a quoted scalar, each of which may be a key. -/
def property? (s : Scanner) (c : Char) : Option Scanner := do
  let s ← s.markKey?
  match c with
  | '*' =>
    let (name, cursor) ← s.cursor.anchor?
    return s.push (.alias name) cursor
  | '&' =>
    let (name, cursor) ← s.cursor.anchor?
    return s.push (.anchor name) cursor
  | '!' =>
    let (tag, cursor) ← s.cursor.tag? s.inFlow
    return s.push (.tag tag) cursor
  | mark =>
    let (text, cursor) ← s.cursor.quoted? mark
    return s.push (.scalar .quoted (String.ofList text)) cursor

/-- Reads a block of lines. -/
def block? (s : Scanner) (style : Style) : Option Scanner := do
  let s ← s.dropKey?
  let (text, cursor) ← (s.cursor.drop 1).block? style s.column
  return { s with keyAllowed := true }.push (.scalar style (String.ofList text)) cursor

/-- Whether a plain scalar may start with the character. -/
def startsPlain (s : Scanner) (c : Char) (next : Option Char) : Bool :=
  !(isGap (some c) || "-?:,[]\x7b\x7d#&*!|>'\"%@\x60".toList.contains c) ||
    (c == '-' && !(next.map isBlank).getD false) ||
    (!s.inFlow && (c == '?' || c == ':') && !isGap next)

/-- Reads a plain scalar.  After a line break a key may start again. -/
def plain? (s : Scanner) : Option Scanner := do
  let s ← s.markKey?
  let (text, broken, cursor) ← s.cursor.plain? s.inFlow (s.column + 1).toNat
  return { s with keyAllowed := s.keyAllowed || broken }.push (.scalar .plain (String.ofList text))
    cursor

/-- Reads the next token, which starts with the character. -/
def token? (s : Scanner) (c : Char) : Option Scanner :=
  let next := s.cursor.charAt? 1
  if s.cursor.column == 0 && c == '%' then do
    let (line, cursor) ← s.cursor.directive?
    s.betweenDocuments? (.directive line) cursor
  else if s.cursor.startsMarker '-' then s.betweenDocuments? .documentStart (s.cursor.drop 3)
  else if s.cursor.startsMarker '.' then s.betweenDocuments? .documentEnd (s.cursor.drop 3)
  else if c == '[' then s.openFlow? .openItems
  else if c == '\x7b' then s.openFlow? .openEntries
  else if c == ']' then s.closeFlow? .closeItems
  else if c == '\x7d' then s.closeFlow? .closeEntries
  else if c == ',' then s.comma?
  else if c == '-' && isGap next then s.item?
  else if c == '?' && (s.inFlow || isGap next) then s.key?
  else if c == ':' && (s.inFlow || isGap next) then s.value?
  else if c == '*' || c == '&' || c == '!' || c == '\'' || c == '"' then s.property? c
  else if c == '|' && !s.inFlow then s.block? .literal
  else if c == '>' && !s.inFlow then s.block? .folded
  else if s.startsPlain c next then s.plain?
  else none

/-- Reads the tokens up to the end of the text. -/
def run : Nat → Scanner → Option Scanner
  | 0, _ => none
  | fuel + 1, s => do
    let s ← s.skipSpace.refreshKeys?
    match s.cursor.rest with
    | [] => (s.closeBlocks (-1)).dropKey?
    | c :: _ => ((s.closeBlocks s.cursor.column).token? c).bind (run fuel)

end Scanner

/-- The tokens of a text, if it has nothing but permitted characters and is well formed to that
extent.  Every step reads at least one character. -/
def Token.ofText? (text : List Char) : Option (List Token) := do
  if !text.all isPermitted then none
  let s ← Scanner.run (text.length + 1) { cursor := ⟨text, {}⟩ }
  return s.tokens.toList

end Folio.Yaml
