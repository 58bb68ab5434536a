import Folio.Dict
import Folio.Location

/-!
# Document trees

A compiled document is a tree of elements, components and texts.  What an element says about itself
(its tag, attributes, private data and place) is its head; heads are what most stages change, so
they are a type of their own.
-/

namespace Folio

/-- The value of a component's prop: a text, or the source of an expression. -/
inductive PropValue where
  | literal (value : String)
  | expression (value : String)
  deriving DecidableEq, Repr, Inhabited

/-- The text of a prop's value, whichever kind it is. -/
def PropValue.value : PropValue → String
  | .literal value => value
  | .expression value => value

/-- Whether the value is an expression. -/
def PropValue.isExpression : PropValue → Bool
  | .literal _ => false
  | .expression _ => true

/-- What stages note on an element for one another; never rendered. -/
structure NodeData where
  /-- The interior of a fence exactly as the body writes it. -/
  fenceSource : Option String := none
  /-- The text of a code block before anything rewrote it. -/
  rawText : Option String := none
  deriving DecidableEq, Repr, Inhabited

/-- All of an element but its children. -/
structure ElementHead where
  tag : String
  attributes : Dict String := ∅
  data : NodeData := {}
  position : Option Location := none
  deriving DecidableEq, Repr, Inhabited

/-- All of a component but its children. -/
structure ComponentHead where
  name : String
  props : Dict PropValue := ∅
  position : Option Location := none
  deriving DecidableEq, Repr, Inhabited

/-- A node of a document tree. -/
inductive Node where
  | element (head : ElementHead) (children : List Node)
  | component (head : ComponentHead) (children : List Node)
  | text (value : String)
  deriving Repr, Inhabited

/-- A document tree: its nodes at the top. -/
abbrev Tree := List Node

/-- An element with its children. -/
structure Element where
  head : ElementHead
  children : List Node
  deriving Repr, Inhabited

namespace ElementHead

/-- The head of an element with a tag and nothing else. -/
def ofTag (tag : String) : ElementHead := { tag }

/-- The value of an attribute. -/
def attribute? (head : ElementHead) (name : String) : Option String :=
  head.attributes.get? name

/-- The head with an attribute set. -/
def setAttribute (head : ElementHead) (name value : String) : ElementHead :=
  { head with attributes := head.attributes.insert name value }

/-- The head with an attribute set when there is a value for it. -/
def setAttribute? (head : ElementHead) (name : String) : Option String → ElementHead
  | some value => head.setAttribute name value
  | none => head

/-- The head without an attribute. -/
def eraseAttribute (head : ElementHead) (name : String) : ElementHead :=
  { head with attributes := head.attributes.erase name }

@[simp] theorem tag_setAttribute (head : ElementHead) (name value : String) :
    (head.setAttribute name value).tag = head.tag := rfl

@[simp] theorem data_setAttribute (head : ElementHead) (name value : String) :
    (head.setAttribute name value).data = head.data := rfl

theorem attribute?_setAttribute (head : ElementHead) (name value other : String) :
    (head.setAttribute name value).attribute? other =
      if name = other then some value else head.attribute? other :=
  head.attributes.get?_insert name other value

@[simp] theorem tag_setAttribute? (head : ElementHead) (name : String) (value : Option String) :
    (head.setAttribute? name value).tag = head.tag := by
  cases value <;> rfl

@[simp] theorem data_setAttribute? (head : ElementHead) (name : String) (value : Option String) :
    (head.setAttribute? name value).data = head.data := by
  cases value <;> rfl

@[simp] theorem tag_eraseAttribute (head : ElementHead) (name : String) :
    (head.eraseAttribute name).tag = head.tag := rfl

@[simp] theorem data_eraseAttribute (head : ElementHead) (name : String) :
    (head.eraseAttribute name).data = head.data := rfl

theorem attribute?_eraseAttribute (head : ElementHead) (name other : String) :
    (head.eraseAttribute name).attribute? other =
      if name = other then none else head.attribute? other :=
  head.attributes.get?_erase name other

/-- The level of a heading, from one to six. -/
def headingLevel? (head : ElementHead) : Option Nat :=
  match head.tag with
  | "h1" => some 1
  | "h2" => some 2
  | "h3" => some 3
  | "h4" => some 4
  | "h5" => some 5
  | "h6" => some 6
  | _ => none

/-- Whether the element is a heading. -/
def isHeading (head : ElementHead) : Bool :=
  head.headingLevel?.isSome

end ElementHead

/-! ## Text -/

mutual

/-- The text of a node and everything under it. -/
def Node.content : Node → String
  | .element _ children => content children
  | .component _ children => content children
  | .text value => value

/-- The text of a list of nodes and everything under them. -/
def content : List Node → String
  | [] => ""
  | node :: nodes => node.content ++ content nodes

end

/-! ## Walks -/

mutual

/-- The elements of a node, in document order. -/
def Node.elements : Node → List Element
  | .element head children => ⟨head, children⟩ :: elements children
  | .component _ children => elements children
  | .text _ => []

/-- The elements of a tree, those inside components included, in document order. -/
def elements : List Node → List Element
  | [] => []
  | node :: nodes => node.elements ++ elements nodes

end

mutual

/-- A node and everything under it, in document order. -/
def Node.nodes : Node → List Node
  | .element head children => .element head children :: nodes children
  | .component head children => .component head children :: nodes children
  | .text value => [.text value]

/-- The nodes of a tree in document order. -/
def nodes : List Node → List Node
  | [] => []
  | node :: rest => node.nodes ++ nodes rest

end

/-! ## Code blocks -/

/-- The first `code` element of a list of nodes. -/
def codeChild? : List Node → Option Element
  | [] => none
  | .element head children :: rest =>
    if head.tag = "code" then some ⟨head, children⟩ else codeChild? rest
  | _ :: rest => codeChild? rest

/-- Whether an element is a code block: a `pre` with a `code` child. -/
def isCodeBlock (head : ElementHead) (children : List Node) : Bool :=
  head.tag == "pre" && (codeChild? children).isSome

end Folio
