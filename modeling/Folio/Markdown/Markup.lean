/-!
# Markup trees

What a body says, before it becomes a document: the tree of its blocks and spans, each with the
stretch of source it was read from.  Nodes that hold nothing but themselves are leaves; all others
are branches.
-/

namespace Folio.Markdown

/-- A place in a source: line and column from 1, and the byte offset from 0. -/
structure Point where
  line : Nat
  column : Nat
  offset : Nat
  deriving DecidableEq, Repr, Inhabited

/-- A stretch of a source. -/
structure Span where
  start : Point
  stop : Point
  deriving DecidableEq, Repr, Inhabited

/-- How a reference is written: `[text][label]`, `[label][]` or `[label]`. -/
inductive ReferenceForm where
  | full
  | collapsed
  | shortcut
  deriving DecidableEq, Repr, Inhabited

/-- How the cells of a column are aligned. -/
inductive CellAlign where
  | left
  | right
  | center
  deriving DecidableEq, Repr, Inhabited

/-- The value of a tag's attribute: a text, or the source of an expression. -/
inductive AttributeValue where
  | literal (value : String)
  | expression (source : String)
  deriving DecidableEq, Repr, Inhabited

/-- An attribute of a tag. -/
inductive Attribute where
  | named (name : String) (value : Option AttributeValue)
  /-- An expression in place of an attribute. -/
  | spread (source : String)
  deriving DecidableEq, Repr, Inhabited

/-- Markup without parts. -/
inductive Leaf where
  | text (value : String)
  | code (value : String) (language : Option String) (meta? : Option String)
  | inlineCode (value : String)
  | lineBreak
  | rule
  | image (url alt : String) (title : Option String)
  | imageReference (identifier : String) (label : Option String) (alt : String)
      (form : ReferenceForm)
  | definition (identifier : String) (label : Option String) (url : String)
      (title : Option String)
  | footnoteReference (identifier : String) (label : Option String)
  /-- Markup that documents have no place for, by the name of its kind. -/
  | foreign (kind value : String)
  deriving DecidableEq, Repr, Inhabited

/-- Markup with parts. -/
inductive Branch where
  | root
  | paragraph
  | heading (depth : Nat)
  | quote
  | list (ordered : Bool) (start : Option Nat) (spread : Bool)
  | item (checked : Option Bool) (spread : Bool)
  | table (columns : List (Option CellAlign))
  | row
  | cell
  | footnoteDefinition (identifier : String) (label : Option String)
  | emphasis
  | strong
  | delete
  | link (url : String) (title : Option String)
  | linkReference (identifier : String) (label : Option String) (form : ReferenceForm)
  /-- An element written as tags: on lines of its own, or within a text.  Without a name it only
  groups its parts. -/
  | tagged (flow : Bool) (name : Option String) (attributes : List Attribute)
  deriving DecidableEq, Repr, Inhabited

/-- A node of a markup tree. -/
inductive Markup where
  | leaf (content : Leaf) (span : Option Span)
  | branch (role : Branch) (span : Option Span) (parts : List Markup)
  deriving Repr, Inhabited

/-- The stretch of source a node was read from. -/
def Markup.span? : Markup → Option Span
  | .leaf _ span => span
  | .branch _ span _ => span

mutual

/-- A node and everything under it, in document order. -/
def Markup.all : Markup → List Markup
  | .leaf content span => [.leaf content span]
  | .branch role span parts => .branch role span parts :: allOf parts

/-- The nodes of a list of trees, in document order. -/
def allOf : List Markup → List Markup
  | [] => []
  | node :: nodes => node.all ++ allOf nodes

end

/-- The target that a definition gives to its identifier. -/
structure Target where
  url : String
  title : Option String
  deriving DecidableEq, Repr, Inhabited

/-- The definitions of a tree in document order. -/
def definitions (root : Markup) : List (String × Target) :=
  root.all.filterMap fun
    | .leaf (.definition identifier _ url title) _ => some (identifier, ⟨url, title⟩)
    | _ => none

/-- The footnote definitions of a tree in document order, with their parts. -/
def footnoteDefinitions (root : Markup) : List (String × List Markup) :=
  root.all.filterMap fun
    | .branch (.footnoteDefinition identifier _) _ parts => some (identifier, parts)
    | _ => none

/-- The identifiers of a tree's footnote references in document order. -/
def footnoteReferences (root : Markup) : List String :=
  root.all.filterMap fun
    | .leaf (.footnoteReference identifier _) _ => some identifier
    | _ => none

end Folio.Markdown
