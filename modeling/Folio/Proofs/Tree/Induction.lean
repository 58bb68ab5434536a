import Folio.Code.Highlight
import Folio.Code.Raw
import Folio.Code.Title
import Folio.Component.Resolve
import Folio.Heading.Anchor

/-!
# Induction on trees

A tree is a list of nodes, and its first node may have a tree of its own below it.  The principle
`tree_induction` follows that shape: both the children of the first node and the nodes after it are
smaller.  The equations say what each walk does with the first node; they are all that proofs about
walks unfold.
-/

namespace Folio

/-- Induction on a tree by its first node, with hypotheses for the children of that node and for the
rest of the tree. -/
@[elab_as_elim]
theorem tree_induction {P : Tree → Prop} (tree : Tree) (nil : P [])
    (element : ∀ head children rest, P children → P rest → P (.element head children :: rest))
    (component : ∀ head children rest, P children → P rest → P (.component head children :: rest))
    (text : ∀ value rest, P rest → P (.text value :: rest)) : P tree :=
  @Node.rec_1 (fun node => ∀ rest, P rest → P (node :: rest)) P
    (fun head children hc rest hr => element head children rest hc hr)
    (fun head children hc rest hr => component head children rest hc hr)
    (fun value rest hr => text value rest hr)
    nil (fun _ rest hn hr => hn rest hr) tree

/-! ## Elements -/

section

variable (head : ElementHead) (tag : ComponentHead) (value : String) (children rest : List Node)

@[simp] theorem elements_nil : elements [] = [] := rfl

@[simp] theorem elements_element : elements (.element head children :: rest) =
    ⟨head, children⟩ :: (elements children ++ elements rest) := rfl

@[simp] theorem elements_component : elements (.component tag children :: rest) =
    elements children ++ elements rest := rfl

@[simp] theorem elements_text : elements (.text value :: rest) = elements rest := rfl

@[simp] theorem codeChild?_nil : codeChild? [] = none := rfl

theorem codeChild?_element : codeChild? (.element head children :: rest) =
    if head.tag = "code" then some ⟨head, children⟩ else codeChild? rest := rfl

@[simp] theorem codeChild?_component :
    codeChild? (.component tag children :: rest) = codeChild? rest := rfl

@[simp] theorem codeChild?_text : codeChild? (.text value :: rest) = codeChild? rest := rfl

theorem codeChild?_singleton {head : ElementHead} (h : head.tag ≠ "code") (children : List Node) :
    codeChild? [.element head children] = none := by
  rw [codeChild?_element, if_neg h]
  rfl

/-! ## Components -/

section

variable (registry : Registry)

@[simp] theorem unresolvedIn?_nil : unresolvedIn? registry [] = none := rfl

@[simp] theorem unresolvedIn?_element : unresolvedIn? registry (.element head children :: rest) =
    (unresolvedIn? registry children).or (unresolvedIn? registry rest) := by
  rw [unresolvedIn?, Node.unresolved?]
  cases unresolvedIn? registry children <;> rfl

@[simp] theorem unresolvedIn?_component : unresolvedIn? registry (.component tag children :: rest) =
    if (registry.resolve? tag.name).isNone then some tag
    else (unresolvedIn? registry children).or (unresolvedIn? registry rest) := by
  rw [unresolvedIn?, Node.unresolved?]
  by_cases h : (registry.resolve? tag.name).isNone
  · rw [if_pos h, if_pos h]
  · rw [if_neg h, if_neg h]
    cases unresolvedIn? registry children <;> rfl

@[simp] theorem unresolvedIn?_text :
    unresolvedIn? registry (.text value :: rest) = unresolvedIn? registry rest := rfl

end

end

end Folio
