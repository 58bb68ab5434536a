import Folio.Markdown.Block.Flow

/-!
# The blocks of a body

The lines of a body are taken one by one.  Each continues some of the open containers, may start new
ones, and gives the rest of itself to the flow.  A line of text may belong to a paragraph inside
containers that it does not continue.
-/

namespace Folio.Markdown

open Folio.Text

/-- A container that is open, with the items it has collected, in reverse. -/
structure OpenContainer where
  container : Container
  start : Point
  items : List Item := []
  deriving Repr

/-- The state of a body between lines. -/
structure Body where
  /-- The open containers, the innermost one first. -/
  stack : List OpenContainer := []
  /-- The items outside all containers, in reverse. -/
  items : List Item := []
  flow : Flow := {}
  /-- Whether the line before was blank.  It is not yet known where that blank line belongs. -/
  blank : Bool := false
  /-- Whether the line before had nothing but the prefixes of containers. -/
  bare : Bool := false
  /-- Whether a line of text may go on with a paragraph whose containers it does not continue. -/
  goesOn : Bool := false
  /-- The end of the line before, without its ending. -/
  stop : Point := Point.first

namespace Body

/-- Adds items to the innermost container. -/
def add (body : Body) (items : List Item) : Body :=
  match body.stack with
  | [] => { body with items := items.foldl (fun all item => addItem item all) body.items }
  | top :: rest =>
    { body with
      stack := { top with items := items.foldl (fun all item => addItem item all) top.items } ::
        rest }

/-- The item of a container that closes at a point.  `bare` says whether the line before ends with
the prefix of a quote that is its last part. -/
def closed (stop : Point) (bare : Bool) (top : OpenContainer) : Item :=
  let span : Span := ⟨top.start, stop⟩
  let parts := settle top.items
  match top.container with
  | .quote => .block (.quote span parts)
  | .item mark .. => .listItem mark (isSpread top.items) (bare || parts.isEmpty) span parts
  | .footnote label => .block (.footnote label span parts)

/-- Closes the innermost containers until `depth` of them are left.  `bare` says whether the line
before ends with the prefix of the quote that was closed last. -/
def closeTo (depth : Nat) (stop : Point) (items : List Item) (bare : Bool) :
    List OpenContainer → Body → Body
  | [], body => { body with stack := [] }.add items
  | top :: rest, body =>
    if depth < rest.length + 1 then
      let innermost := rest.length + 1 == body.stack.length
      let isQuote := match top.container with
        | .quote => true
        | _ => false
      let top := { top with items := items.foldl (fun all item => addItem item all) top.items }
      closeTo depth stop [closed stop bare top] (innermost && isQuote && body.blank && body.bare)
        rest
        body
    else
      { body with stack := top :: rest }.add items

/-- Adds the blank line before, if there is one. -/
def addBlank (body : Body) : Body :=
  if body.blank then { body.add [.blank] with blank := false } else body

/-- Closes the innermost containers until `depth` of them are left, at the end of the line before or
where the flow ended after it.  A blank line before belongs outside. -/
def close (body : Body) (depth : Nat) (stop : Option Point) : Body :=
  (closeTo depth (stop.getD body.stop) [] false body.stack body).addBlank

/-- The open containers that a line continues, from the outside in, as they are after the line, and
the rest of the line. -/
def continued : List OpenContainer → List Cell → List OpenContainer × List Cell
  | [], cells => ([], cells)
  | top :: inner, cells =>
    match top.container.continue? cells with
    | none => ([], cells)
    | some (container, rest) =>
      let (others, rest) := continued inner rest
      ({ top with container } :: others, rest)

/-- Opens the containers that start on a line.  Each takes at least one cell, so as many steps as
there are cells are enough. -/
def openAll (gfm interrupting : Bool) : (steps : Nat) → List Cell →
    List (OpenContainer × List Cell)
  | 0, _ => []
  | steps + 1, cells =>
    match opening? gfm interrupting cells with
    | none => []
    | some opening =>
      let start := startOf Point.first cells
      (⟨opening.container, start, []⟩, opening.rest) ::
        openAll gfm false steps opening.rest

/-- Whether the flow may go on with a paragraph that a line does not continue the containers of. -/
def mayGoOn (flow : Flow) : Bool :=
  match flow.leaf with
  | .head .. => true
  | .idle => flow.last == .text || flow.last == .underline
  | _ => false

/-- Whether the flow allows no containers to start: in a fence or a tag. -/
def isConcrete (flow : Flow) : Bool :=
  match flow.leaf with
  | .fence _ => true
  | .tags .. => true
  | _ => false

/-- The body before containers open on a line: what the flow has open is ended, unless the line
continues all containers, when only a possible head of a table is. -/
def beforeOpening (constructs : Constructs) (body : Body) (line : Line) (depth : Nat) :
    Except Point Body := do
  if depth < body.stack.length then
    let lines := match body.flow.leaf with
      | .tags _ _ lines => lines.length
      | _ => 0
    let place := startOf line.stop line.cells
    let flushed ← flush constructs place (lines + 1) body.flow
    return { body.add flushed.items with flow := flushed.flow }.close depth flushed.stop
  else
    match body.flow.leaf with
    | .head head _ =>
      let fed := feedText head body.flow
      return { (body.addBlank).add fed.items with flow := fed.flow }
    | _ => return body.addBlank

/-- Whether an item is a blank line. -/
def isBlankItem : Item → Bool
  | .blank => true
  | _ => false

/-- Gives the rest of a line to the flow.  `depth` containers are continued. -/
def feedLine (constructs : Constructs) (body : Body) (line : Line) (rest : List Cell) (depth : Nat)
    (opening : Bool) : Except Point Body := do
  let lazy := depth < body.stack.length
  let text : TextLine :=
    { cells := rest, stop := line.stop, ending := line.ending
      prefixed := rest.length < line.cells.length }
  let body := if lazy then body else body.addBlank
  let fed ← feed constructs body.flow.steps ⟨text, lazy, opening⟩ body.flow
  let goesOn := mayGoOn fed.flow
  let closing := lazy && !(body.goesOn && goesOn)
  let body := body.add fed.settled
  let body := if closing then body.close depth none else body
  let flow := if closing then { fed.flow with interrupting := false } else fed.flow
  let blank := fed.items.getLast?.any isBlankItem
  let items := if blank then fed.items.dropLast else fed.items
  return { body.add items with flow, blank, bare := rest.isEmpty, goesOn, stop := line.stop }

/-- Takes one line. -/
def step (gfm : Bool) (constructs : Constructs) (body : Body) (line : Line) :
    Except Point Body := do
  let (continuing, rest) := continued body.stack.reverse line.cells
  let depth := continuing.length
  let body := { body with
    stack := body.stack.take (body.stack.length - depth) ++ continuing.reverse }
  let all := depth == body.stack.length
  let opened :=
    if all && isConcrete body.flow then []
    else openAll gfm (all && body.flow.interrupting) (rest.length + 1) rest
  match opened.getLast? with
  | none => feedLine constructs body line rest depth false
  | some (_, rest) =>
    let body ← beforeOpening constructs body line depth
    let body := { body with stack := (opened.map (·.1)).reverse ++ body.stack }
    feedLine constructs body line rest body.stack.length true

/-- Ends a body at the point after its last line. -/
def finish (constructs : Constructs) (body : Body) (place : Point) : Except Point (List Block) := do
  let lines := match body.flow.leaf with
    | .tags _ _ lines => lines.length
    | _ => 0
  let flushed ← flush constructs place (lines + 1) body.flow
  return settle ({ body.add flushed.items with flow := flushed.flow }.close 0 flushed.stop).items

end Body

/-- The point after the last line. -/
def endPoint (lines : List Line) : Point :=
  match lines.getLast? with
  | some line => (line.ending.map (·.stop)).getD line.stop
  | none => Point.first

/-- The blocks of a body, or the place where a tag is malformed. -/
def blocks (gfm jsx : Bool) (lines : List Line) : Except Point (List Block) := do
  let constructs : Constructs := { tables := gfm, tags := jsx }
  let body ← lines.foldlM (Body.step gfm constructs) {}
  body.finish constructs (endPoint lines)

end Folio.Markdown
