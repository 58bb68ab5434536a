import Folio.Error
import Folio.Lower.Width
import Folio.Tree.Basic

/-!
# From markup to a document tree

Markup becomes elements, components and texts.  Two things are carried from node to node: the
identifiers of footnotes in the order of their first reference, and the first fence that nothing
closes.  The width of the innermost container is handed down.

Footnote definitions are left out where they stand; those that are referenced, directly or through
one another, follow in a section at the end.
-/

namespace Folio.Lower

open Folio.Text Folio.Markdown

/-- What is fixed while a body is lowered. -/
structure Context where
  source : List Char
  definitions : List (String × Target)
  footnotes : List (String × List Markup)

/-- What is carried from node to node. -/
structure State where
  /-- The identifiers of the footnotes referenced so far, in the order of their first reference. -/
  order : List String := []
  /-- The first fence found that nothing closes. -/
  unclosed : Option CompileError := none

/-- The target of an identifier: that of its first definition. -/
def Context.target? (ctx : Context) (identifier : String) : Option Target :=
  (ctx.definitions.find? (·.1 == identifier)).map (·.2)

/-- The parts of the first definition of a footnote. -/
def Context.footnote? (ctx : Context) (identifier : String) : Option (List Markup) :=
  (ctx.footnotes.find? (·.1 == identifier)).map (·.2)

/-- Notes a fence that nothing closes; only the first one counts. -/
def State.noteUnclosed (state : State) (marker : Char) (start : Point) : State :=
  match state.unclosed with
  | some _ => state
  | none =>
    let location : Location := { line := start.line, column := start.column }
    { state with unclosed := some (.block (.unclosedFence marker) location) }

/-- The number of a footnote, counted by first references. -/
def State.refer (state : State) (identifier : String) : Nat × State :=
  if state.order.contains identifier then
    (state.order.idxOf identifier + 1, state)
  else
    (state.order.length + 1, { state with order := state.order ++ [identifier] })

/-! ## Pieces -/

/-- The place where a node starts. -/
def placeOf (span : Option Span) : Option Location :=
  span.map fun span => { line := span.start.line, column := span.start.column }

/-- An element with a tag and children. -/
def plain (tag : String) (children : List Node) : Node :=
  .element (.ofTag tag) children

/-- An element with a tag, a place and children. -/
def placed (tag : String) (span : Option Span) (children : List Node) : Node :=
  .element { tag, position := placeOf span } children

/-- A link to a target. -/
def anchor (target : Target) (position : Option Location) (children : List Node) : Node :=
  .element
    ({ ElementHead.ofTag "a" with position }.setAttribute "href" target.url
      |>.setAttribute? "title" target.title)
    children

/-- An image. -/
def image (target : Target) (alt : String) : Node :=
  .element
    ((ElementHead.ofTag "img").setAttribute "src" target.url |>.setAttribute "alt" alt
      |>.setAttribute? "title" target.title)
    []

/-- A fenced block: a `pre` with one `code`, whose text ends in a line feed unless it is empty. -/
def codeBlock (value : String) (language note : Option String) (fenceSource : Option String)
    (position : Option Location) : Node :=
  let code := (ElementHead.ofTag "code").setAttribute? "class" (language.map ("language-" ++ ·))
  let pre := ({ tag := "pre", data := { fenceSource }, position } : ElementHead)
    |>.setAttribute? "data-meta" note
  .element pre [.element code (if value.isEmpty then [] else [.text (value ++ "\n")])]

/-- The mark that refers to a footnote by its number. -/
def footnoteMark (identifier : String) (number : Nat) : Node :=
  plain "sup"
    [.element
      ((ElementHead.ofTag "a").setAttribute "href" ("#fn-" ++ identifier)
        |>.setAttribute "id" ("fnref-" ++ identifier) |>.setAttribute "data-footnote-ref" "")
      [.text (toString number)]]

/-- A footnote in the section at the end, with a link back to its reference. -/
def footnoteItem (identifier : String) (children : List Node) : Node :=
  let back := .element
    ((ElementHead.ofTag "a").setAttribute "href" ("#fnref-" ++ identifier)
      |>.setAttribute "data-footnote-backref" "")
    [.text "↩"]
  .element ((ElementHead.ofTag "li").setAttribute "id" ("fn-" ++ identifier)) (children ++ [back])

/-- The section of the footnotes. -/
def footnoteSection (items : List Node) : Node :=
  .element
    ((ElementHead.ofTag "section").setAttribute "class" "footnotes"
      |>.setAttribute "data-footnotes" "")
    [plain "ol" items]

/-- The box of a task list item, and the space after it. -/
def taskBox (checked : Bool) : List Node :=
  let input := (ElementHead.ofTag "input").setAttribute "type" "checkbox"
    |>.setAttribute "disabled" ""
  [.element (if checked then input.setAttribute "checked" "" else input) [], .text " "]

/-- The head of a list. -/
def listHead (ordered : Bool) (start : Option Nat) (position : Option Location) : ElementHead :=
  let head : ElementHead := { tag := if ordered then "ol" else "ul", position }
  match start with
  | some n => if ordered && n != 1 then head.setAttribute "start" (toString n) else head
  | none => head

/-- The head of a list item. -/
def itemHead (checked : Option Bool) (position : Option Location) : ElementHead :=
  let head : ElementHead := { tag := "li", position }
  if checked.isSome then head.setAttribute "class" "task-list-item" else head

/-- The head of a table cell in a column. -/
def cellHead (tag : String) (alignment : Option CellAlign) : ElementHead :=
  let head := ElementHead.ofTag tag
  match alignment with
  | some .left => head.setAttribute "align" "left"
  | some .right => head.setAttribute "align" "right"
  | some .center => head.setAttribute "align" "center"
  | none => head

/-- A tag names a component unless it starts with a lower-case letter and holds no point. -/
def isComponentName (name : String) : Bool :=
  !((name.toList.head?.map fun c => 'a' ≤ c && c ≤ 'z').getD false) || name.toList.contains '.'

/-- The props that a tag's attributes give; of two with one name the later one counts, and spread
expressions give none. -/
def propsOf (attributes : List Attribute) : Dict PropValue :=
  Dict.ofList (attributes.filterMap fun
    | .named name none => some (name, .literal "")
    | .named name (some (.literal value)) => some (name, .literal value)
    | .named name (some (.expression source)) => some (name, .expression source)
    | .spread _ => none)

/-- A tagged element: a component, a plain element, or only its children. -/
def taggedNodes (name : Option String) (attributes : List Attribute) (position : Option Location)
    (children : List Node) : List Node :=
  match name with
  | none => children
  | some name =>
    let props := propsOf attributes
    if isComponentName name then [.component { name, props, position } children]
    else [.element { tag := name, attributes := props.map PropValue.value, position } children]

/-- Whether the parts of a list hold an item that is spread out. -/
def hasSpreadItem (parts : List Markup) : Bool :=
  parts.any fun
    | .branch (.item _ spread) _ _ => spread
    | _ => false

/-- The nodes of a leaf. -/
def lowerLeaf (ctx : Context) (width : Nat) (content : Leaf) (span : Option Span) (state : State) :
    List Node × State :=
  match content with
  | .text value => ([.text value], state)
  | .inlineCode value => ([placed "code" span [.text value]], state)
  | .lineBreak => ([placed "br" span []], state)
  | .rule => ([placed "hr" span []], state)
  | .code value language note =>
    let position := placeOf span
    match cut ctx.source width span with
    | .absent => ([codeBlock value language note none position], state)
    | .interior text => ([codeBlock value language note (some text) position], state)
    | .unclosed marker start =>
      ([codeBlock value language note none position], state.noteUnclosed marker start)
  | .image url alt title => ([image ⟨url, title⟩ alt], state)
  | .imageReference identifier _ alt _ =>
    match ctx.target? identifier with
    | some target => ([image target alt], state)
    | none => ([.text alt], state)
  | .footnoteReference identifier _ =>
    let (number, state) := state.refer identifier
    ([footnoteMark identifier number], state)
  | .definition .. => ([], state)
  | .foreign .. => ([], state)

/-! ## The walk -/

mutual

/-- The nodes of a markup tree, inside a container of the given width. -/
def lowerNode (ctx : Context) (width : Nat) (node : Markup) (state : State) : List Node × State :=
  match node with
  | .leaf content span => lowerLeaf ctx width content span state
  | .branch role span parts =>
    match role with
    | .root => lowerAll ctx width parts state
    | .paragraph =>
      let (children, state) := lowerAll ctx width parts state
      ([placed "p" span children], state)
    | .heading depth =>
      let (children, state) := lowerAll ctx width parts state
      ([placed ("h" ++ toString (max 1 (min 6 depth))) span children], state)
    | .strong =>
      let (children, state) := lowerAll ctx width parts state
      ([placed "strong" span children], state)
    | .emphasis =>
      let (children, state) := lowerAll ctx width parts state
      ([placed "em" span children], state)
    | .delete =>
      let (children, state) := lowerAll ctx width parts state
      ([placed "del" span children], state)
    | .quote =>
      let width := (quoteWidth? ctx.source span).getD width
      let (children, state) := lowerAll ctx width parts state
      ([placed "blockquote" span children], state)
    | .list ordered start spread =>
      let loose := spread || hasSpreadItem parts
      let (items, state) := lowerItems ctx width loose parts state
      ([.element (listHead ordered start (placeOf span)) items], state)
    | .item checked _ =>
      let width := (itemWidth? ctx.source span).getD width
      let (children, state) := lowerBlocks ctx width true parts state
      ([.element (itemHead checked (placeOf span)) (checked.elim [] taskBox ++ children)], state)
    | .link url title =>
      let (children, state) := lowerAll ctx width parts state
      ([anchor ⟨url, title⟩ (placeOf span) children], state)
    | .linkReference identifier _ _ =>
      let (children, state) := lowerAll ctx width parts state
      match ctx.target? identifier with
      | some target => ([anchor target none children], state)
      | none => (children, state)
    | .table columns =>
      let (rows, state) := lowerRows ctx width columns true parts state
      let head := rows.take 1
      let body := rows.drop 1
      ([plain "table"
        ((if head.isEmpty then [] else [plain "thead" head]) ++
          (if body.isEmpty then [] else [plain "tbody" body]))], state)
    | .row => ([], state)
    | .cell => ([], state)
    | .footnoteDefinition .. => ([], state)
    | .tagged _ name attributes =>
      let (children, state) := lowerAll ctx width parts state
      (taggedNodes name attributes (placeOf span) children, state)

/-- The nodes of a list of markup trees. -/
def lowerAll (ctx : Context) (width : Nat) (nodes : List Markup) (state : State) :
    List Node × State :=
  match nodes with
  | [] => ([], state)
  | node :: rest =>
    let (first, state) := lowerNode ctx width node state
    let (others, state) := lowerAll ctx width rest state
    (first ++ others, state)

/-- The nodes of the parts of a list item.  Unless the list is loose, a paragraph gives its content
only. -/
def lowerBlocks (ctx : Context) (width : Nat) (loose : Bool) (nodes : List Markup) (state : State) :
    List Node × State :=
  match nodes with
  | [] => ([], state)
  | .branch .paragraph span parts :: rest =>
    let (first, state) :=
      if loose then
        let (children, state) := lowerAll ctx width parts state
        ([placed "p" span children], state)
      else
        lowerAll ctx width parts state
    let (others, state) := lowerBlocks ctx width loose rest state
    (first ++ others, state)
  | node :: rest =>
    let (first, state) := lowerNode ctx width node state
    let (others, state) := lowerBlocks ctx width loose rest state
    (first ++ others, state)

/-- The items of a list.  What is not an item is wrapped in one. -/
def lowerItems (ctx : Context) (width : Nat) (loose : Bool) (nodes : List Markup) (state : State) :
    List Node × State :=
  match nodes with
  | [] => ([], state)
  | .branch (.item checked _) span parts :: rest =>
    let inner := (itemWidth? ctx.source span).getD width
    let (children, state) := lowerBlocks ctx inner loose parts state
    let item := .element (itemHead checked (placeOf span)) (checked.elim [] taskBox ++ children)
    let (others, state) := lowerItems ctx width loose rest state
    (item :: others, state)
  | node :: rest =>
    let (children, state) := lowerNode ctx width node state
    let (others, state) := lowerItems ctx width loose rest state
    (plain "li" children :: others, state)

/-- The rows of a table; `head` holds until the first one.  What is not a row is left out. -/
def lowerRows (ctx : Context) (width : Nat) (columns : List (Option CellAlign)) (head : Bool)
    (nodes : List Markup) (state : State) : List Node × State :=
  match nodes with
  | [] => ([], state)
  | .branch .row _ parts :: rest =>
    let (cells, state) := lowerCells ctx width columns (if head then "th" else "td") parts state
    let (others, state) := lowerRows ctx width columns false rest state
    (plain "tr" cells :: others, state)
  | _ :: rest => lowerRows ctx width columns head rest state

/-- The cells of a row, aligned by the columns that are left.  What is not a cell gives an empty
one. -/
def lowerCells (ctx : Context) (width : Nat) (columns : List (Option CellAlign)) (tag : String)
    (nodes : List Markup) (state : State) : List Node × State :=
  match nodes with
  | [] => ([], state)
  | .branch .cell _ parts :: rest =>
    let (children, state) := lowerAll ctx width parts state
    let (others, state) := lowerCells ctx width columns.tail tag rest state
    (.element (cellHead tag (columns.head?.bind id)) children :: others, state)
  | _ :: rest =>
    let (others, state) := lowerCells ctx width columns.tail tag rest state
    (.element (cellHead tag (columns.head?.bind id)) [] :: others, state)

end

/-! ## Footnotes -/

/-- The items of the footnotes from the given index of the order on.  Lowering one may refer to
further ones, which come later.  Each step takes one more identifier of the order, and no identifier
is in it twice, so as many steps as a body has references are enough. -/
def footnoteItems (ctx : Context) : (steps index : Nat) → State → List Node × State
  | 0, _, state => ([], state)
  | steps + 1, index, state =>
    match state.order[index]? with
    | none => ([], state)
    | some identifier =>
      match ctx.footnote? identifier with
      | none => footnoteItems ctx steps (index + 1) state
      | some parts =>
        let (children, state) := lowerAll ctx 0 parts state
        let (others, state) := footnoteItems ctx steps (index + 1) state
        (footnoteItem identifier children :: others, state)

/-- What lowering a body starts from. -/
def contextOf (root : Markup) (source : String) : Context where
  source := source.toList
  definitions := definitions root
  footnotes := footnoteDefinitions root

end Lower

open Markdown in
/-- The document tree of a body's markup.  `source` is the text the markup was read from.

Fails on the first fence that is closed only by the end of its container or of the document. -/
def lower (root : Markup) (source : String) : Except CompileError Tree :=
  let ctx := Lower.contextOf root source
  let (children, state) := Lower.lowerNode ctx 0 root {}
  let (footnotes, state') := Lower.footnoteItems ctx (footnoteReferences root).length 0 state
  match state'.unclosed with
  | some error => .error error
  | none =>
    .ok (if state.order.isEmpty then children else children ++ [Lower.footnoteSection footnotes])

end Folio
