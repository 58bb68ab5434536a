import Folio.Text.Blank
import Folio.Tree.Transform

/-!
# Code titles

The title of a code block is written in the line that opens its fence, as a note `title="app.js"` or
after the language as in `js:app.js`.  It is lifted into the attribute `data-title`, and what it was
lifted from is cleaned.
-/

namespace Folio

open Folio.Text

/-- A quoted title at the front of a text, and what follows it.  Single and double quotes do, and
the title holds no quote of its own kind. -/
def titleAt? (cs : List Char) : Option (List Char × List Char) := do
  let quote :: cs ← dropStart? "title=".toList cs | none
  if ¬(quote = '"' ∨ quote = '\'') then none
  let _ :: rest := cs.dropWhile (· != quote) | none
  return (cs.takeWhile (· != quote), rest)

/-- A title found in a note: what stands before it, the title, and what stands after it. -/
structure FoundTitle where
  before : List Char
  title : List Char
  after : List Char
  deriving DecidableEq, Repr

/-- The first title in a note.  It starts the note (`atStart`), or a blank stands before it, which
is then part of neither side. -/
def findTitle? (atStart : Bool) (cs : List Char) : Option FoundTitle :=
  match if atStart then titleAt? cs else none with
  | some (title, after) => some ⟨[], title, after⟩
  | none =>
    match cs with
    | [] => none
    | c :: rest =>
      match if isBlank c then titleAt? rest else none with
      | some (title, after) => some ⟨[], title, after⟩
      | none => (findTitle? false rest).map fun found => { found with before := c :: found.before }

/-- The note without its title: a space stands in the title's place, unless it is at an end. -/
def FoundTitle.rest (found : FoundTitle) : List Char :=
  trim (found.before ++ ' ' :: found.after)

/-- The head of a block whose note has a title: the title lifted, the note cleaned. -/
def liftNoteTitle? (head : ElementHead) : Option ElementHead := do
  let found ← findTitle? true (← head.attribute? "data-meta").toList
  let rest := found.rest
  let head :=
    if rest.isEmpty then head.eraseAttribute "data-meta"
    else head.setAttribute "data-meta" (String.ofList rest)
  return head.setAttribute "data-title" (String.ofList found.title)

/-- The language and the title of a class `language-js:app.js`. -/
def classTitle? (class_ : String) : Option (List Char × List Char) := do
  let name ← dropStart? "language-".toList class_.toList
  let ':' :: title := name.dropWhile (· != ':') | none
  if title.isEmpty then none
  return (name.takeWhile (· != ':'), title)

/-- The language and the title that the class of a block's `code` child gives. -/
def codeTitle? (children : List Node) : Option (List Char × List Char) := do
  let code ← codeChild? children
  classTitle? (← code.head.attribute? "class")

/-- The class of a `code` element with the language alone. -/
def setLanguage (language : List Char) (code : ElementHead) : ElementHead :=
  code.setAttribute "class" ("language-" ++ String.ofList language)

mutual

/-- A node with the titles of its code blocks lifted. -/
def Node.liftTitles : Node → Node
  | .text value => .text value
  | .component head children => .component head (liftTitles children)
  | .element head children =>
    let inner := liftTitles children
    if isCodeBlock head children then
      match liftNoteTitle? head with
      | some head => .element head inner
      | none =>
        match codeTitle? children with
        | some (language, title) =>
          .element (head.setAttribute "data-title" (String.ofList title))
            (mapCodeHead (setLanguage language) inner)
        | none => .element head inner
    else
      .element head inner

/-- A tree with the titles of its code blocks lifted.  A note's title comes before one after the
language. -/
def liftTitles : List Node → List Node
  | [] => []
  | node :: nodes => node.liftTitles :: liftTitles nodes

end

end Folio
