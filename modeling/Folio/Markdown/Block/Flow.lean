import Folio.Markdown.Block.Basic

/-!
# Flow

What the lines of a body are, their containers aside.  Some constructs go on over several lines: a
fence, a tag, and a line that is the head of a table if the next one says so.  The others are known
from one line.
-/

namespace Folio.Markdown

open Folio.Text

/-- A line as the flow sees it. -/
structure FlowLine where
  text : TextLine
  /-- Whether the line does not continue all open containers. -/
  lazy : Bool
  /-- Whether a container starts on the line. -/
  opening : Bool
  deriving Repr, Inhabited

/-- A fence that is open. -/
structure OpenFence where
  opener : FenceOpener
  start : Point
  /-- The end of the last line, without its ending. -/
  stop : Point
  /-- What has been read, in reverse, and the ending of the last line. -/
  value : List Char
  ending : Option Cell
  deriving Repr, Inhabited

/-- The construct that a line may continue. -/
inductive OpenLeaf where
  | idle
  /-- A line that is the head of a table, with so many cells, if the next line says so. -/
  | head (line : TextLine) (cells : Nat)
  | fence (fence : OpenFence)
  /-- Tags, the last of which is not complete, and the lines they are on, in reverse. -/
  | tags (complete : List Tag) (tag : OpenTag) (lines : List FlowLine)
  deriving Repr, Inhabited

/-- What the last block was, as far as later lines ask. -/
inductive LastBlock where
  | text
  | underline
  | row
  | other
  deriving DecidableEq, Repr, Inhabited

/-- The state of the flow between lines. -/
structure Flow where
  leaf : OpenLeaf := .idle
  last : LastBlock := .other
  /-- Whether a block that starts now interrupts a paragraph. -/
  interrupting : Bool := false
  deriving Repr, Inhabited

/-- What a line gives: items that complete earlier lines, items of the line itself, and the state
after it. -/
structure Fed where
  settled : List Item := []
  items : List Item := []
  flow : Flow
  deriving Repr, Inhabited

/-! ## Blocks of one line -/

/-- The state after a block that no later line asks about. -/
def Flow.after (flow : Flow) : Flow :=
  { flow with leaf := .idle, last := .other, interrupting := false }

/-- A line of text. -/
def feedText (line : TextLine) (flow : Flow) : Fed where
  items := [.text [line]]
  flow := { flow with leaf := .idle, last := .text, interrupting := true }

/-- A heading, if the line is one. -/
def feedHeading? (line : TextLine) (flow : Flow) : Option Fed :=
  (headingLine? line.cells).map fun (depth, text) =>
    { items := [.block (.heading depth line.span text)], flow := flow.after }

/-- A rule, if the line is one. -/
def feedRule? (line : TextLine) (flow : Flow) : Option Fed :=
  if isRule line.cells then some { items := [.block (.rule line.span)], flow := flow.after }
  else none

/-- An open fence, if the line opens one. -/
def feedFence? (line : TextLine) (flow : Flow) : Option Fed :=
  (fenceOpener? line.cells).map fun opener =>
    let fence : OpenFence :=
      { opener, start := startOf line.stop (skipGaps line.cells), stop := line.stop, value := []
        ending := line.ending }
    { flow := { flow with leaf := .fence fence, last := .other, interrupting := false } }

/-- A line under a paragraph, if it is one. -/
def feedUnderline? (line : FlowLine) (flow : Flow) : Option Fed :=
  if line.lazy || line.opening || !(flow.last == .text || flow.last == .underline) then none
  else (underlineDepth? line.text.cells).map fun depth =>
    { items := [.underline depth line.text]
      flow := { flow with leaf := .idle, last := .underline, interrupting := false } }

/-- A row of the table before, or the possible head of a table. -/
def feedTable? (line : FlowLine) (flow : Flow) : Option Fed :=
  let text := line.text
  if flow.last == .row && !line.opening then
    if line.lazy then none
    else some {
      items := [.table [] [⟨text.span, rowCells text.stop text.cells⟩]]
      flow := { flow with leaf := .idle, last := .row, interrupting := false } }
  else if text.ending.isSome then
    (headCells? text.cells).map fun cells =>
      { flow := { flow with leaf := .head text cells, interrupting := true } }
  else none

/-! ## Dispatch -/

/-- Which constructs a body may use. -/
structure Constructs where
  tables : Bool
  tags : Bool
  deriving Repr

/-- A line that is not a tag and does not continue anything: the first construct that fits. -/
def feedPlain (constructs : Constructs) (line : FlowLine) (flow : Flow) : Fed :=
  let text := line.text
  let table? := if constructs.tables then feedTable? line flow else none
  let others : Option Fed :=
    feedHeading? text flow <|> feedUnderline? line flow <|> feedRule? text flow <|> table?
  let found : Option Fed :=
    match text.cells.head?.map (·.char) with
    | none => none
    | some c =>
      if c = '#' then feedHeading? text flow
      else if c = '\x60' ∨ c = '~' ∨ c = '$' then feedFence? text flow
      else if c = '*' ∨ c = '_' then feedRule? text flow
      else if c = 'e' ∨ c = 'i' ∨ c = '\x7b' then none
      else if c = '<' then others
      else feedFence? text flow <|> others
  if isBlankCells text.cells then
    { items := if text.ending.isSome then [.blank] else []
      flow := flow.after }
  else found.getD (feedText text flow)

/-- The outcome of reading tags on through the rest of a line. -/
inductive TagsRun where
  | complete (tags : List Tag)
  | open_ (tags : List Tag) (tag : OpenTag)
  | refused
  | malformed (place : Point)

/-- Reads tags, one after the other, to the end of a line.  Only spaces may stand between and after
them.  Each tag takes at least one cell, so as many steps as there are cells are enough. -/
def runTags (done : List Tag) (tag : OpenTag) : (steps : Nat) → List Cell → TagsRun
  | 0, _ => .refused
  | steps + 1, cells =>
    match tag.run cells with
    | .open_ tag => .open_ done tag
    | .refused => .refused
    | .malformed place => .malformed place
    | .complete tag rest =>
      match skipGaps rest with
      | [] => .complete (done ++ [tag])
      | c :: rest =>
        if c.isEnding then .complete (done ++ [tag])
        else if c.char = '<' then runTags (done ++ [tag]) (.ofBracket c.start) steps rest
        else .refused

/-- The cells of a line with its ending. -/
def TextLine.all (line : TextLine) : List Cell :=
  line.cells ++ line.ending.toList

/-- The items of tags. -/
def tagItems (tags : List Tag) : List Item :=
  tags.map fun tag => .block (.tag tag)

/-- Starts tags at the front of a line, if it starts with a bracket. -/
def startTags? (constructs : Constructs) (line : TextLine) : Option TagsRun :=
  match skipGaps line.all with
  | c :: rest =>
    let allowed := match line.cells.head?.map (·.char) with
      | some c => c = '<' || isIndent c
      | none => false
    if constructs.tags && allowed && c.char = '<' then
      some (runTags [] (.ofBracket c.start) (rest.length + 1) rest)
    else none
  | [] => none

/-- A line that does not continue anything. -/
def feedFresh (constructs : Constructs) (line : FlowLine) (flow : Flow) : Except Point Fed :=
  let plain := feedPlain constructs line flow
  if isBlankCells line.text.cells || (feedFence? line.text flow).isSome then .ok plain
  else
    match startTags? constructs line.text with
    | none => .ok plain
    | some .refused => .ok plain
    | some (.malformed place) => .error place
    | some (.complete tags) =>
      .ok { items := tagItems tags, flow := { flow with leaf := .idle, last := .other } }
    | some (.open_ tags tag) => .ok { flow := { flow with leaf := .tags tags tag [line] } }

/-! ## Lines that continue -/

/-- The line after one that may be the head of a table: the table if it says so, and otherwise the
head is text. -/
def feedHead (constructs : Constructs) (head : TextLine) (cells : Nat) (line : FlowLine)
    (flow : Flow) : Except Point Fed :=
  let columns := if line.lazy || line.opening then none else columns? line.text.cells
  match columns.filter (·.length == cells) with
  | some columns =>
    let row : Row := ⟨head.span, rowCells head.stop head.cells⟩
    .ok {
      items := [.table columns [row]]
      flow := { flow with leaf := .idle, last := .row, interrupting := false } }
  | none => do
    let text := feedText head flow
    let fed ← feedFresh constructs line text.flow
    return { fed with settled := text.items ++ fed.settled }

/-- The value of a fenced block: what was read, without the line endings at its two ends. -/
def OpenFence.text (fence : OpenFence) : List Char :=
  let dropEnding (cs : List Char) : List Char :=
    match cs with
    | '\r' :: '\n' :: rest => rest
    | c :: rest => if isReturn c then rest else c :: rest
    | [] => []
  let dropLast (cs : List Char) : List Char :=
    match cs with
    | '\n' :: '\r' :: rest => rest
    | c :: rest => if isReturn c then rest else c :: rest
    | [] => []
  (dropLast (dropEnding fence.value.reverse).reverse).reverse

/-- The block of a fence that ends at a point. -/
def OpenFence.item (fence : OpenFence) (stop : Point) : Item :=
  .block (.code ⟨fence.start, stop⟩ fence.opener.language fence.opener.note fence.text)

/-- The fence with the ending of its last line taken in. -/
def OpenFence.endLine (fence : OpenFence) : OpenFence :=
  match fence.ending with
  | some ending =>
    { fence with
      value := ending.source.reverse ++ fence.value, stop := ending.stop, ending := none }
  | none => fence

/-- A line after an open fence.  A line that does not continue the containers of the fence ends
it. -/
def feedFenceLine (constructs : Constructs) (fence : OpenFence) (line : FlowLine) (flow : Flow) :
    Except Point Fed :=
  let text := line.text
  if line.lazy then do
    let fed ← feedFresh constructs line flow.after
    return { fed with settled := fence.item fence.stop :: fed.settled }
  else if closesFence fence.opener.marker fence.opener.length text.cells then
    .ok { items := [fence.endLine.item text.stop], flow := flow.after }
  else
    let content := sourceOf (skipGapsUpTo fence.opener.indent text.cells)
    let fence := fence.endLine
    let fence := { fence with
      value := content.reverse ++ fence.value, stop := text.stop, ending := text.ending }
    .ok { flow := { flow with leaf := .fence fence } }

/-- A line that is read again, after what was read again before it. -/
def feedAfter (feedLine : FlowLine → Flow → Except Point Fed) (before : Fed) (line : FlowLine) :
    Except Point Fed := do
  let fed ← feedLine line before.flow
  return { fed with items := before.items ++ fed.settled ++ fed.items, settled := [] }

/-- A line in any state of the flow.  When lines turn out to be no tags, they are read again, the
first of them as something else; `steps` bounds how often. -/
def feed (constructs : Constructs) : (steps : Nat) → FlowLine → Flow → Except Point Fed
  | 0, line, flow => .ok (feedPlain constructs line flow)
  | steps + 1, line, flow =>
    match flow.leaf with
    | .idle => feedFresh constructs line flow
    | .head head cells => feedHead constructs head cells line flow
    | .fence fence => feedFenceLine constructs fence line flow
    | .tags done tag lines =>
      let cells := line.text.all
      if line.lazy then .error line.text.start
      else
        match runTags done tag (cells.length + 1) cells with
        | .malformed place => .error place
        | .complete tags =>
          .ok { items := tagItems tags, flow := { flow with leaf := .idle, last := .other } }
        | .open_ tags tag => .ok { flow := { flow with leaf := .tags tags tag (line :: lines) } }
        | .refused =>
          match (line :: lines).reverse with
          | [] => .ok { flow }
          | first :: rest => do
            let plain := feedPlain constructs first { flow with leaf := .idle }
            rest.foldlM (feedAfter (feed constructs steps)) plain

/-- The steps that a line may need. -/
def Flow.steps (flow : Flow) : Nat :=
  match flow.leaf with
  | .tags _ _ lines => lines.length + 2
  | _ => 1

/-- The end of a flow. -/
structure Flushed where
  items : List Item
  flow : Flow
  /-- Where an open fence ends. -/
  stop : Option Point := none

/-- Ends the flow at a point after its last line.  A fence that is open reaches to the point. -/
def flushOnce (place : Point) (flow : Flow) : Except Point Flushed :=
  match flow.leaf with
  | .idle => .ok { items := [], flow }
  | .head head _ =>
    let fed := feedText head flow
    .ok { items := fed.items, flow := fed.flow }
  | .fence fence =>
    let fence := fence.endLine
    .ok { items := [fence.item fence.stop], flow := flow.after, stop := some fence.stop }
  | .tags _ tag _ => if tag.endIsMalformed then .error place else .ok { items := [], flow }

/-- Ends the flow.  Lines of tags that are not complete are read again; `steps` bounds how often. -/
def flush (constructs : Constructs) (place : Point) : (steps : Nat) → Flow → Except Point Flushed
  | 0, flow => flushOnce place flow
  | steps + 1, flow => do
    let flushed ← flushOnce place flow
    match flow.leaf with
    | .tags _ _ lines =>
      match lines.reverse with
      | [] => return { flushed with flow := flow.after }
      | first :: rest =>
        let plain := feedPlain constructs first { flow with leaf := .idle }
        let fed ← rest.foldlM (feedAfter (feed constructs rest.length)) plain
        let last ← flush constructs place steps fed.flow
        return { last with items := fed.items ++ last.items }
    | _ => return flushed

end Folio.Markdown
