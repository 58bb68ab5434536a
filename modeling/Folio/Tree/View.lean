import Folio.Outline
import Folio.Tree.Basic

/-!
# Views of a tree

What readers of a compiled tree ask for: its code blocks and its headings.
-/

namespace Folio

open Folio.Text

/-- What a reader sees of a code block. -/
structure CodeBlock where
  language : Option String
  title : Option String
  /-- The text of the block as it was written. -/
  raw : Option String
  /-- The children of the `code` element, which may be highlighted. -/
  body : List Node

/-- The language a class attribute names: the rest of its first word that starts with
`language-`. -/
def classLanguage? (class_ : String) : Option String :=
  (words class_.toList).findSome? fun word =>
    (dropStart? "language-".toList word).map String.ofList

/-- The language of a `code` element. -/
def codeLanguage? (code : ElementHead) : Option String :=
  (code.attribute? "class").bind classLanguage?

/-- The view of an element that is a code block. -/
def codeBlock? (pre : Element) : Option CodeBlock :=
  if pre.head.tag = "pre" then
    (codeChild? pre.children).map fun code =>
      { language := pre.head.attribute? "data-language" <|> codeLanguage? code.head
        title := pre.head.attribute? "data-title"
        raw := pre.head.attribute? "raw"
        body := code.children }
  else
    none

/-- The code blocks of a tree in document order. -/
def codeBlocks (tree : Tree) : List CodeBlock :=
  (elements tree).filterMap codeBlock?

/-- The heading that an element is: one of the second to the fourth level that has an id. -/
def heading? (element : Element) : Option Heading := do
  let level ← element.head.headingLevel?
  let id ← element.head.attribute? "id"
  if 2 ≤ level && level ≤ 4 then
    some
      { level
        text := String.ofList (trim (content element.children).toList)
        href := "#" ++ id }
  else
    none

/-- The headings of a tree in document order. -/
def treeOutline (tree : Tree) : List Heading :=
  (elements tree).filterMap heading?

end Folio
