import Folio.Component.Registry
import Folio.Error
import Folio.Tree.Basic

/-!
# Resolving components

Every component of a document has to be in the registry.  The first one in document order that is
not makes the document fail, at the place of its tag.
-/

namespace Folio

/-- The error for a component that the registry does not know. -/
def unresolved (component : ComponentHead) : CompileError :=
  .component component.name (component.position.getD Location.start)

mutual

/-- The first component of a node that the registry does not know. -/
def Node.unresolved? (registry : Registry) : Node → Option ComponentHead
  | .text _ => none
  | .element _ children => unresolvedIn? registry children
  | .component head children =>
    if (registry.resolve? head.name).isNone then some head
    else unresolvedIn? registry children

/-- The first component of a tree that the registry does not know. -/
def unresolvedIn? (registry : Registry) : List Node → Option ComponentHead
  | [] => none
  | node :: nodes =>
    match node.unresolved? registry with
    | some head => some head
    | none => unresolvedIn? registry nodes

end

/-- The tree itself, if the registry knows all of its components. -/
def resolveComponents (registry : Registry) (tree : Tree) : Except CompileError Tree :=
  match unresolvedIn? registry tree with
  | some head => .error (unresolved head)
  | none => .ok tree

end Folio
