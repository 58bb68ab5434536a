import Folio.Tree.Basic

/-!
# Transforming trees

Two ways to change every element of a tree in document order.  `mapHeads` changes what elements
say about themselves and leaves the tree's shape alone.  `replaceCode` gives code blocks a new body;
what the body was before is not visited.
-/

namespace Folio

mutual

/-- A node with the head of each element replaced, given its children. -/
def Node.mapHeads (f : ElementHead → List Node → ElementHead) : Node → Node
  | .element head children => .element (f head children) (mapHeads f children)
  | .component head children => .component head (mapHeads f children)
  | .text value => .text value

/-- A tree with the head of each element replaced, given its children. -/
def mapHeads (f : ElementHead → List Node → ElementHead) : List Node → List Node
  | [] => []
  | node :: nodes => node.mapHeads f :: mapHeads f nodes

end

mutual

/-- A node with the head of each element replaced, or the first failure in document order. -/
def Node.tryMapHeads {ε : Type} (f : ElementHead → List Node → Except ε ElementHead) :
    Node → Except ε Node
  | .element head children => do
    let head ← f head children
    let children ← tryMapHeads f children
    return .element head children
  | .component head children => do
    let children ← tryMapHeads f children
    return .component head children
  | .text value => return .text value

/-- A tree with the head of each element replaced, or the first failure in document order. -/
def tryMapHeads {ε : Type} (f : ElementHead → List Node → Except ε ElementHead) :
    List Node → Except ε (List Node)
  | [] => return []
  | node :: nodes => do
    let node ← node.tryMapHeads f
    let nodes ← tryMapHeads f nodes
    return node :: nodes

end

/-- A list of nodes with the head of its first `code` element replaced. -/
def mapCodeHead (f : ElementHead → ElementHead) : List Node → List Node
  | [] => []
  | .element head children :: rest =>
    if head.tag = "code" then .element (f head) children :: rest
    else .element head children :: mapCodeHead f rest
  | node :: rest => node :: mapCodeHead f rest

/-- What becomes of an element whose code is replaced: its new head and the new children of its
first `code` child. -/
structure NewCode where
  head : ElementHead
  body : List Node

mutual

/-- A node with code replaced wherever `f` says so: it is asked for each element that has a `code`
child, with its head and that child. -/
def Node.replaceCode {ε : Type} (f : ElementHead → Element → Except ε (Option NewCode)) :
    Node → Except ε Node
  | .element head children =>
    match codeChild? children with
    | none => do
      let children ← replaceCode f children
      return .element head children
    | some code => do
      match ← f head code with
      | none =>
        let children ← replaceCode f children
        return .element head children
      | some new =>
        let children ← replaceFirst f new.body children
        return .element new.head children
  | .component head children => do
    let children ← replaceCode f children
    return .component head children
  | .text value => return .text value

/-- A tree with code replaced wherever `f` says so, or the first failure in document order. -/
def replaceCode {ε : Type} (f : ElementHead → Element → Except ε (Option NewCode)) :
    List Node → Except ε (List Node)
  | [] => return []
  | node :: nodes => do
    let node ← node.replaceCode f
    let nodes ← replaceCode f nodes
    return node :: nodes

/-- The children of an element whose first `code` child gets a new body; the others are transformed
in turn. -/
def replaceFirst {ε : Type} (f : ElementHead → Element → Except ε (Option NewCode))
    (body : List Node) : List Node → Except ε (List Node)
  | [] => return []
  | .element head children :: rest =>
    if head.tag = "code" then do
      let rest ← replaceCode f rest
      return .element head body :: rest
    else do
      let first ← (Node.element head children).replaceCode f
      let rest ← replaceFirst f body rest
      return first :: rest
  | .component head children :: rest => do
    let first ← (Node.component head children).replaceCode f
    let rest ← replaceFirst f body rest
    return first :: rest
  | .text value :: rest => do
    let rest ← replaceFirst f body rest
    return .text value :: rest

end

end Folio
