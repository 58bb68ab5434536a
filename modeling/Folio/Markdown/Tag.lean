import Folio.Markdown.CharacterReference
import Folio.Markdown.Layout
import Folio.Text.Identifier

/-!
# Tags

A tag is read cell by cell, because it may go on over several lines and the lines may turn out not
to continue it.  After each cell a tag is complete, goes on, is no tag at all, or is malformed.
-/

namespace Folio.Markdown

open Folio.Text

/-- A complete tag. -/
structure Tag where
  /-- A tag without a name opens or closes a group. -/
  name : Option String
  closing : Bool
  selfClosing : Bool
  attributes : List Attribute
  span : Span
  /-- The slash of a closing tag. -/
  slash : Point
  /-- The first attribute or slash that a closing tag has no place for. -/
  misplaced : Option Point
  deriving Repr, Inhabited

/-- The parts of a name, between points or before and after a colon. -/
inductive NamePart where
  | primary
  | member
  | localName
  deriving DecidableEq, Repr

/-- A place in a tag where white space may stand. -/
inductive Spot where
  | name
  | closingName
  | afterName (part : NamePart)
  | memberName
  | localName
  | attribute
  | afterAttributeName (isLocal : Bool)
  | attributeLocalName
  | attributeValue
  | slash
  deriving DecidableEq, Repr

/-- What is being read of a tag. -/
inductive TagState where
  /-- The first character after the bracket. -/
  | start
  | gap (spot : Spot)
  | inName (part : NamePart)
  | inAttributeName (isLocal : Bool)
  /-- A quoted value; whether only white space was read on its line so far. -/
  | inValue (quote : Char) (lineStart : Bool)
  /-- An expression, alone or as a value; how many braces are open in it, and how much of the
  line's indent is still dropped. -/
  | inExpression (alone : Bool) (depth indent : Nat)
  deriving DecidableEq, Repr, Inhabited

/-- A tag that is being read. -/
structure OpenTag where
  start : Point
  state : TagState
  name : List Char := []
  named : Bool := false
  closing : Bool := false
  selfClosing : Bool := false
  slash : Point
  misplaced : Option Point := none
  /-- The attributes so far, the last one first. -/
  attributes : List Attribute := []
  /-- The name and the value of the attribute that is being read, in reverse. -/
  attributeName : List Char := []
  value : List Char := []
  deriving Repr, Inhabited

/-- What a cell does to a tag. -/
inductive TagStep where
  | more (tag : OpenTag)
  | complete (tag : Tag)
  /-- It is no tag. -/
  | refused
  | malformed (place : Point)
  deriving Repr

namespace OpenTag

/-- A tag whose bracket starts at a point. -/
def ofBracket (start : Point) : OpenTag where
  start
  state := .start
  slash := start

/-- The tag in another state. -/
def move (tag : OpenTag) (state : TagState) : TagStep :=
  .more { tag with state }

/-- The complete tag, whose last bracket is a cell. -/
def finish (tag : OpenTag) (last : Cell) : TagStep :=
  .complete {
    name := if tag.named then some (String.ofList tag.name.reverse) else none
    closing := tag.closing
    selfClosing := tag.selfClosing
    attributes := tag.attributes.reverse
    span := ⟨tag.start, last.stop⟩
    slash := tag.slash
    misplaced := tag.misplaced }

/-- Notes what a closing tag has no place for. -/
def noteMisplaced (tag : OpenTag) (place : Point) : OpenTag :=
  if tag.closing && tag.misplaced.isNone then { tag with misplaced := some place } else tag

/-- Adds the attribute that has been read, with its value. -/
def endAttribute (tag : OpenTag) (value : Option AttributeValue) : OpenTag :=
  let name := String.ofList tag.attributeName.reverse
  { tag with attributes := .named name value :: tag.attributes, attributeName := [], value := [] }

/-- Starts a part of the name. -/
def startName (tag : OpenTag) (part : NamePart) (c : Cell) : TagStep :=
  if startsIdentifier c.char then
    .more { tag with state := .inName part, name := c.char :: tag.name, named := true }
  else
    .malformed c.start

/-- Reads a cell where an attribute or the end of the tag is expected. -/
def attributeStep (tag : OpenTag) (c : Cell) : TagStep :=
  if c.char = '/' then
    { tag.noteMisplaced c.start with selfClosing := true }.move (.gap .slash)
  else if c.char = '>' then tag.finish c
  else if c.char = '\x7b' then (tag.noteMisplaced c.start).move (.inExpression true 0 0)
  else if startsIdentifier c.char then
    { tag.noteMisplaced c.start with attributeName := [c.char] }.move (.inAttributeName false)
  else .malformed c.start

/-- Reads a cell after a part of the name. -/
def afterNameStep (tag : OpenTag) (part : NamePart) (c : Cell) : TagStep :=
  if c.char = '.' ∧ part ≠ .localName then
    { tag with name := '.' :: tag.name }.move (.gap .memberName)
  else if c.char = ':' ∧ part = .primary then
    { tag with name := ':' :: tag.name }.move (.gap .localName)
  else tag.attributeStep c

/-- Reads a cell after the name of an attribute. -/
def afterAttributeNameStep (tag : OpenTag) (isLocal : Bool) (c : Cell) : TagStep :=
  if c.char = ':' ∧ isLocal = false then
    { tag with attributeName := ':' :: tag.attributeName }.move (.gap .attributeLocalName)
  else if c.char = '=' then tag.move (.gap .attributeValue)
  else (tag.endAttribute none).attributeStep c

/-- Reads a cell that is not white space at a spot. -/
def spotStep (tag : OpenTag) (spot : Spot) (c : Cell) : TagStep :=
  match spot with
  | .name =>
    if c.char = '/' then { tag with closing := true, slash := c.start }.move (.gap .closingName)
    else if c.char = '>' then tag.finish c
    else tag.startName .primary c
  | .closingName => if c.char = '>' then tag.finish c else tag.startName .primary c
  | .afterName part => tag.afterNameStep part c
  | .memberName => tag.startName .member c
  | .localName => tag.startName .localName c
  | .attribute => tag.attributeStep c
  | .afterAttributeName isLocal => tag.afterAttributeNameStep isLocal c
  | .attributeLocalName =>
    if startsIdentifier c.char then
      { tag with attributeName := c.char :: tag.attributeName }.move (.inAttributeName true)
    else .malformed c.start
  | .attributeValue =>
    if c.char = '"' ∨ c.char = '\'' then tag.move (.inValue c.char false)
    else if c.char = '\x7b' then tag.move (.inExpression false 0 0)
    else .malformed c.start
  | .slash => if c.char = '>' then tag.finish c else .malformed c.start

/-- Reads a cell of a quoted value.  White space at the start of a line is dropped. -/
def valueStep (tag : OpenTag) (quote : Char) (lineStart : Bool) (c : Cell) : TagStep :=
  let taken := { tag with value := c.source.reverse ++ tag.value }
  if c.isEnding then taken.move (.inValue quote true)
  else if lineStart && isBlank c.char then .more tag
  else if c.char = quote then
    let value := String.ofList (decodeReferences tag.value.reverse)
    (tag.endAttribute (some (.literal value))).move (.gap .attribute)
  else taken.move (.inValue quote false)

/-- How much indent the lines of an expression lose. -/
def expressionIndent : Nat := 2

/-- Reads a cell of an expression. -/
def expressionStep (tag : OpenTag) (alone : Bool) (depth indent : Nat) (c : Cell) : TagStep :=
  let taken := { tag with value := c.source.reverse ++ tag.value }
  if c.isEnding then taken.move (.inExpression alone depth expressionIndent)
  else if c.isGap && 0 < indent then tag.move (.inExpression alone depth (indent - 1))
  else if c.char = '\x7b' then taken.move (.inExpression alone (depth + 1) 0)
  else if c.char = '\x7d' then
    if depth = 0 then
      let value := String.ofList tag.value.reverse
      let tag :=
        if alone then { tag with attributes := .spread value :: tag.attributes, value := [] }
        else tag.endAttribute (some (.expression value))
      tag.move (.gap .attribute)
    else
      taken.move (.inExpression alone (depth - 1) 0)
  else taken.move (.inExpression alone depth 0)

/-- Whether the character goes on with a name. -/
def isNameChar (c : Char) : Bool :=
  continuesIdentifier c || c == '-'

/-- Reads one cell of a tag. -/
def step (tag : OpenTag) (c : Cell) : TagStep :=
  match tag.state with
  | .start =>
    if c.isGap || c.isEnding then .refused
    else if isBlank c.char then tag.move (.gap .name)
    else tag.spotStep .name c
  | .gap spot => if isBlank c.char then .more tag else tag.spotStep spot c
  | .inName part =>
    if isNameChar c.char then .more { tag with name := c.char :: tag.name }
    else if isBlank c.char then tag.move (.gap (.afterName part))
    else tag.afterNameStep part c
  | .inAttributeName isLocal =>
    if isNameChar c.char then .more { tag with attributeName := c.char :: tag.attributeName }
    else if isBlank c.char then tag.move (.gap (.afterAttributeName isLocal))
    else tag.afterAttributeNameStep isLocal c
  | .inValue quote lineStart => tag.valueStep quote lineStart c
  | .inExpression alone depth indent => tag.expressionStep alone depth indent c

/-- Whether the end of the text makes the tag malformed.  Otherwise it only means that there is no
tag. -/
def endIsMalformed (tag : OpenTag) : Bool :=
  match tag.state with
  | .inValue _ lineStart => !lineStart
  | .inExpression .. => true
  | _ => false

end OpenTag

/-- What reading a tag off a run of cells gives. -/
inductive TagRun where
  | complete (tag : Tag) (rest : List Cell)
  | open_ (tag : OpenTag)
  | refused
  | malformed (place : Point)

/-- Reads a tag on through a run of cells. -/
def OpenTag.run (tag : OpenTag) : List Cell → TagRun
  | [] => .open_ tag
  | c :: cells =>
    match tag.step c with
    | .more tag => tag.run cells
    | .complete tag => .complete tag cells
    | .refused => .refused
    | .malformed place => .malformed place

end Folio.Markdown
