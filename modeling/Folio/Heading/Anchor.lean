import Folio.Slug
import Folio.Tree.Transform

/-!
# Heading anchors

Headings get an id made from their text, and a link to themselves: around their content, or as an
empty anchor before or after it.
-/

namespace Folio

open Folio.Text

/-- Where the link of a heading to itself goes. -/
inductive SelfLink where
  /-- Around the content. -/
  | wrap
  /-- Before the content, empty. -/
  | prepend
  /-- After the content, empty. -/
  | append
  /-- Nowhere. -/
  | off
  deriving DecidableEq, Repr, Inhabited

/-- The head of a heading with an id; an id that is there already stays. -/
def giveId (head : ElementHead) (children : List Node) : ElementHead :=
  if head.isHeading && !head.attributes.contains "id" then
    head.setAttribute "id" (slug (String.ofList (trim (content children).toList)))
  else
    head

/-- Gives every heading an id. -/
def headingIds (tree : Tree) : Tree :=
  mapHeads giveId tree

mutual

/-- Whether a node is an anchor or has one under it. -/
def Node.hasAnchor : Node → Bool
  | .element head children => head.tag == "a" || hasAnchor children
  | .component _ children => hasAnchor children
  | .text _ => false

/-- Whether a list of nodes holds an anchor at any depth. -/
def hasAnchor : List Node → Bool
  | [] => false
  | node :: nodes => node.hasAnchor || hasAnchor nodes

end

/-- An anchor around nodes. -/
def wrapAnchor (href : String) (children : List Node) : Node :=
  .element ((ElementHead.ofTag "a").setAttribute "href" href) children

/-- An anchor without content. -/
def iconAnchor (href : String) : Node :=
  .element
    ((ElementHead.ofTag "a").setAttribute "href" href |>.setAttribute "aria-hidden" "true"
      |>.setAttribute "tabindex" "-1" |>.setAttribute "class" "heading-anchor")
    []

/-- Where a heading links to: nowhere unless it is a heading with an id. -/
def selfHref? (head : ElementHead) : Option String :=
  if head.isHeading then (head.attribute? "id").map ("#" ++ ·) else none

/-- The children of a heading with its link placed among them.  `linked` are the children after
their own headings were linked; a heading that has an anchor already is not wrapped in one. -/
def placeLink (link : SelfLink) (href : String) (children linked : List Node) : List Node :=
  match link with
  | .wrap => if hasAnchor children then linked else [wrapAnchor href linked]
  | .prepend => iconAnchor href :: linked
  | .append => linked ++ [iconAnchor href]
  | .off => linked

mutual

/-- A node with its headings linked to themselves. -/
def Node.linkHeadings (link : SelfLink) : Node → Node
  | .text value => .text value
  | .component head children => .component head (linkHeadings link children)
  | .element head children =>
    let linked := linkHeadings link children
    match selfHref? head with
    | some href => .element head (placeLink link href children linked)
    | none => .element head linked

/-- A tree with its headings linked to themselves. -/
def linkHeadings (link : SelfLink) : List Node → List Node
  | [] => []
  | node :: nodes => node.linkHeadings link :: linkHeadings link nodes

end

end Folio
