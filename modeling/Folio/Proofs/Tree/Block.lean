import Folio.Proofs.Tree.Induction
import Folio.Tree.View

/-!
# The code blocks of a tree

The elements of a tree that are code blocks, in document order, and what it means that no block is
part of the code of another one.
-/

namespace Folio

/-- The code blocks of a tree, in document order. -/
def blocks (tree : Tree) : List Element :=
  (elements tree).filter fun e => isCodeBlock e.head e.children

/-- No code block of the tree lies inside the `code` child of another one. -/
def FlatBlocks (tree : Tree) : Prop :=
  ∀ block ∈ blocks tree, ∀ code, codeChild? block.children = some code → blocks code.children = []

section

variable (head : ElementHead) (tag : ComponentHead) (value : String) (children rest : List Node)

@[simp] theorem blocks_nil : blocks [] = [] := rfl

@[simp] theorem blocks_element : blocks (.element head children :: rest) =
    (if isCodeBlock head children then [⟨head, children⟩] else []) ++
      (blocks children ++ blocks rest) := by
  unfold blocks
  rw [elements_element, List.filter_cons, List.filter_append]
  by_cases h : isCodeBlock head children
  · rw [if_pos h, if_pos h]
    rfl
  · rw [if_neg h, if_neg h]
    rfl

@[simp] theorem blocks_component : blocks (.component tag children :: rest) =
    blocks children ++ blocks rest := by
  unfold blocks
  rw [elements_component, List.filter_append]

@[simp] theorem blocks_text : blocks (.text value :: rest) = blocks rest := rfl

end

theorem blocks_append (t u : Tree) : blocks (t ++ u) = blocks t ++ blocks u := by
  induction t with
  | nil => rfl
  | cons node t ih =>
      cases node with
      | element head children => simp [ih]
      | component tag children => simp [ih]
      | text value => simpa using ih

/-! ## Blocks and their tags -/

/-- Only a `pre` is a code block. -/
theorem isCodeBlock_eq_false {head : ElementHead} (h : head.tag ≠ "pre") (children : List Node) :
    isCodeBlock head children = false := by
  simp [isCodeBlock, h]

/-- A `code` is no block itself. -/
theorem blocks_code {head : ElementHead} (hcode : head.tag = "code") (children rest : List Node) :
    blocks (.element head children :: rest) = blocks children ++ blocks rest := by
  have hne : head.tag ≠ "pre" := by
    rw [hcode]
    decide
  rw [blocks_element, isCodeBlock_eq_false hne]
  rfl

/-- A heading is not a `pre`. -/
theorem tag_ne_pre_of_isHeading {head : ElementHead} (h : head.isHeading) : head.tag ≠ "pre" := by
  intro hp
  simp [ElementHead.isHeading, ElementHead.headingLevel?, hp] at h

/-- A heading is not a `code`. -/
theorem tag_ne_code_of_isHeading {head : ElementHead} (h : head.isHeading) :
    head.tag ≠ "code" := by
  intro hc
  simp [ElementHead.isHeading, ElementHead.headingLevel?, hc] at h

/-- The view of a block shows the title and the text published on its head. -/
theorem map_codeBlocks (tree : Tree) :
    (codeBlocks tree).map (fun view => (view.title, view.raw)) =
      (blocks tree).map fun e => (e.head.attribute? "data-title", e.head.attribute? "raw") := by
  unfold codeBlocks blocks
  generalize elements tree = es
  induction es with
  | nil => rfl
  | cons e es ih =>
      rw [List.filterMap_cons, List.filter_cons]
      by_cases hp : e.head.tag = "pre"
      · cases hc : codeChild? e.children with
        | none => simpa [codeBlock?, isCodeBlock, hp, hc] using ih
        | some code => simpa [codeBlock?, isCodeBlock, hp, hc] using ih
      · simpa [codeBlock?, isCodeBlock, hp] using ih

/-! ## Flat trees -/

theorem flatBlocks_nil : FlatBlocks [] := by
  intro block hb
  cases hb

theorem flatBlocks_append {t u : Tree} : FlatBlocks (t ++ u) ↔ FlatBlocks t ∧ FlatBlocks u := by
  unfold FlatBlocks
  rw [blocks_append]
  exact List.forall_mem_append

/-- A tree is flat if the code of its first node, when that is a block, holds no block, and both the
children of the first node and the other nodes are flat. -/
theorem flatBlocks_element {head : ElementHead} {children rest : List Node} :
    FlatBlocks (.element head children :: rest) ↔
      (isCodeBlock head children → ∀ code, codeChild? children = some code →
        blocks code.children = []) ∧ FlatBlocks children ∧ FlatBlocks rest := by
  unfold FlatBlocks
  rw [blocks_element, List.forall_mem_append, List.forall_mem_append]
  by_cases h : isCodeBlock head children
  · simp [h]
  · simp [h]

theorem flatBlocks_component {tag : ComponentHead} {children rest : List Node} :
    FlatBlocks (.component tag children :: rest) ↔ FlatBlocks children ∧ FlatBlocks rest := by
  unfold FlatBlocks
  rw [blocks_component]
  exact List.forall_mem_append

end Folio
