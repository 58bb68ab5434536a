import Folio.Component.Resolve

/-!
# HTML

A tree is written as HTML.  Attributes come in the order of their names, and one without a value is
written bare.  A component is written as the element it is bound to.  After block elements and
components comes a line feed.
-/

namespace Folio

/-- The elements that have no content and no end tag. -/
def voidTags : List String := ["br", "hr", "img", "input"]

/-- The elements that a line feed follows. -/
def blockTags : List String :=
  ["blockquote", "div", "h1", "h2", "h3", "h4", "h5", "h6", "hr", "li", "ol", "p", "pre",
    "section", "table", "tbody", "thead", "tr", "ul"]

/-- A character as it stands in a text. -/
def escapeTextChar (c : Char) : List Char :=
  match c with
  | '&' => "&amp;".toList
  | '<' => "&lt;".toList
  | '>' => "&gt;".toList
  | c => [c]

/-- A character as it stands in an attribute between double quotes. -/
def escapeAttributeChar (c : Char) : List Char :=
  match c with
  | '&' => "&amp;".toList
  | '<' => "&lt;".toList
  | '>' => "&gt;".toList
  | '"' => "&quot;".toList
  | c => [c]

/-- A text with its special characters escaped. -/
def escapeText (s : String) : String :=
  String.ofList (s.toList.flatMap escapeTextChar)

/-- An attribute's value with its special characters escaped. -/
def escapeAttribute (s : String) : String :=
  String.ofList (s.toList.flatMap escapeAttributeChar)

/-- The attributes of a start tag. -/
def attributesHtml : List (String × String) → String
  | [] => ""
  | (name, value) :: rest =>
    " " ++ name ++ (if value.isEmpty then "" else "=\"" ++ escapeAttribute value ++ "\"") ++
      attributesHtml rest

/-- A start tag. -/
def startTag (tag : String) (attributes : Dict String) : String :=
  "<" ++ tag ++ attributesHtml attributes.entries ++ ">"

/-- An end tag. -/
def endTag (tag : String) : String :=
  "</" ++ tag ++ ">"

/-- The line feed after a block element. -/
def blockBreak (tag : String) : String :=
  if blockTags.contains tag then "\n" else ""

/-- The attribute that a prop becomes. -/
def propAttribute (name : String) : PropValue → String × String
  | .literal value => (name, value)
  | .expression value => ("data-expr-" ++ name, value)

/-- The attributes of the element that stands for a component: its name, and its props in the order
of their names; of two with one name the later one counts. -/
def componentAttributes (component : ComponentHead) : Dict String :=
  component.props.entries.foldl
    (fun attributes entry =>
      let (name, value) := propAttribute entry.1 entry.2
      attributes.insert name value)
    ((∅ : Dict String).insert "data-component" component.name)

mutual

/-- The HTML of a node. -/
def Node.toHtml (registry : Registry) : Node → Except CompileError String
  | .text value => .ok (escapeText value)
  | .element head children =>
    if voidTags.contains head.tag then
      .ok (startTag head.tag head.attributes ++ blockBreak head.tag)
    else do
      let inner ← toHtml registry children
      return startTag head.tag head.attributes ++ inner ++ endTag head.tag ++ blockBreak head.tag
  | .component head children =>
    match registry.resolve? head.name with
    | none => .error (unresolved head)
    | some binding => do
      let inner ← toHtml registry children
      return startTag binding.element (componentAttributes head) ++ inner ++
        endTag binding.element ++ "\n"

/-- The HTML of a tree, or the error of the first component that the registry does not know. -/
def toHtml (registry : Registry) : List Node → Except CompileError String
  | [] => .ok ""
  | node :: nodes => do
    let first ← node.toHtml registry
    let rest ← toHtml registry nodes
    return first ++ rest

end

end Folio
