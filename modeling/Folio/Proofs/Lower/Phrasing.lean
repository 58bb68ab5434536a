import Folio.Lower.Document
import Folio.Proofs.Outline.Tree

/-!
# Lowering what a line of text says

The markup of a text without tags and footnotes is lowered to nodes that hold no heading, no code
block and no component, and lowering it carries nothing on.
-/

namespace Folio

/-! ## Prose -/

/-- Nodes without headings, code blocks and components. -/
structure Prose (t : Tree) : Prop where
  headless : Headless t
  codeFree : CodeFree t
  known : ∀ registry, unresolvedIn? registry t = none

namespace Prose

theorem nil : Prose [] where
  headless := allHeads_nil
  codeFree := allHeads_nil
  known _ := rfl

theorem text (value : String) : Prose [.text value] where
  headless := allHeads_text.2 allHeads_nil
  codeFree := allHeads_text.2 allHeads_nil
  known _ := rfl

theorem append {t u : Tree} (ht : Prose t) (hu : Prose u) : Prose (t ++ u) where
  headless := allHeads_append.2 ⟨ht.headless, hu.headless⟩
  codeFree := allHeads_append.2 ⟨ht.codeFree, hu.codeFree⟩
  known registry := by rw [unresolvedIn?_append, ht.known, hu.known, Option.or_none]

theorem element {head : ElementHead} {children : List Node} (h : Prose children)
    (hplain : head.isHeading = false) (hpre : head.tag ≠ "pre") :
    Prose [.element head children] where
  headless := allHeads_element.2 ⟨hplain, h.headless, allHeads_nil⟩
  codeFree := allHeads_element.2 ⟨hpre, h.codeFree, allHeads_nil⟩
  known registry := by
    rw [unresolvedIn?_element, h.known]
    rfl

end Prose

namespace Lower

open Folio.Markdown

/-- An element that is written with a plain tag. -/
theorem prose_element (tag : String) {head : ElementHead} (htag : head.tag = tag)
    (hplain : (ElementHead.ofTag tag).isHeading = false) (hpre : tag ≠ "pre") {children : List Node}
    (h : Prose children) : Prose [.element head children] :=
  h.element (isHeading_eq_false_of_tag_eq htag hplain) (by rwa [htag])

theorem prose_placed {tag : String} (hplain : (ElementHead.ofTag tag).isHeading = false)
    (hpre : tag ≠ "pre") {children : List Node} (h : Prose children) (span : Option Span) :
    Prose [placed tag span children] :=
  prose_element tag rfl hplain hpre h

theorem prose_anchor (target : Target) (position : Option Location) {children : List Node}
    (h : Prose children) : Prose [anchor target position children] :=
  prose_element "a" (by simp [ElementHead.ofTag]) (by decide) (by decide) h

theorem prose_image (target : Target) (alt : String) : Prose [image target alt] :=
  prose_element "img" (by simp [ElementHead.ofTag]) (by decide) (by decide) .nil

end Lower

/-! ## Phrasing -/

namespace Markdown

/-- The leaves a text may hold, but for references to footnotes. -/
def Leaf.isPhrasing : Leaf → Bool
  | .text _ | .inlineCode _ | .lineBreak | .image .. | .imageReference .. | .foreign .. => true
  | .code .. | .rule | .definition .. | .footnoteReference .. => false

/-- The branches a text may hold, but for tags. -/
def Branch.isPhrasing : Branch → Bool
  | .emphasis | .strong | .delete | .link .. | .linkReference .. => true
  | _ => false

/-- The markup of a text without tags and references to footnotes. -/
inductive Phrasing : List Markup → Prop
  | nil : Phrasing []
  | leaf {content : Leaf} {span : Option Span} {rest : List Markup} :
      content.isPhrasing → Phrasing rest → Phrasing (.leaf content span :: rest)
  | branch {role : Branch} {span : Option Span} {parts rest : List Markup} :
      role.isPhrasing → Phrasing parts → Phrasing rest → Phrasing (.branch role span parts :: rest)

end Markdown

namespace Lower

open Folio.Markdown

/-- A leaf of a text is lowered to prose, and changes nothing that is carried on. -/
theorem exists_lowerLeaf (ctx : Context) (width : Nat) {content : Leaf} (h : content.isPhrasing)
    (span : Option Span) (state : State) :
    ∃ nodes, lowerLeaf ctx width content span state = (nodes, state) ∧ Prose nodes := by
  cases content with
  | text value => exact ⟨_, rfl, .text value⟩
  | inlineCode value =>
      exact ⟨_, rfl, prose_placed (by decide) (by decide) (.text value) span⟩
  | lineBreak => exact ⟨_, rfl, prose_placed (by decide) (by decide) .nil span⟩
  | image url alt title => exact ⟨_, rfl, prose_image ⟨url, title⟩ alt⟩
  | imageReference identifier label alt form =>
      -- An image that has no target is its text.
      cases htarget : ctx.target? identifier with
      | some target =>
          exact ⟨[image target alt], by simp [lowerLeaf, htarget], prose_image target alt⟩
      | none => exact ⟨[.text alt], by simp [lowerLeaf, htarget], .text alt⟩
  | foreign kind value => exact ⟨_, rfl, .nil⟩
  | code value language note => cases h
  | rule => cases h
  | definition identifier label url title => cases h
  | footnoteReference identifier label => cases h

/-- So is a branch whose parts are. -/
theorem exists_lowerBranch (ctx : Context) (width : Nat) {role : Branch} (h : role.isPhrasing)
    (span : Option Span) {parts : List Markup} {state : State} {children : List Node}
    (hparts : lowerAll ctx width parts state = (children, state)) (hprose : Prose children) :
    ∃ nodes, lowerNode ctx width (.branch role span parts) state = (nodes, state) ∧
      Prose nodes := by
  have hplaced {tag : String} (hplain : (ElementHead.ofTag tag).isHeading = false)
      (hpre : tag ≠ "pre") : Prose [placed tag span children] :=
    prose_placed hplain hpre hprose span
  cases role with
  | emphasis =>
      exact ⟨[placed "em" span children], by simp only [lowerNode, hparts],
        hplaced (by decide) (by decide)⟩
  | strong =>
      exact ⟨[placed "strong" span children], by simp only [lowerNode, hparts],
        hplaced (by decide) (by decide)⟩
  | delete =>
      exact ⟨[placed "del" span children], by simp only [lowerNode, hparts],
        hplaced (by decide) (by decide)⟩
  | link url title =>
      exact ⟨[anchor ⟨url, title⟩ (placeOf span) children], by simp only [lowerNode, hparts],
        prose_anchor _ _ hprose⟩
  | linkReference identifier label form =>
      -- A link that has no target is what it holds.
      cases htarget : ctx.target? identifier with
      | some target =>
          exact ⟨[anchor target none children], by simp only [lowerNode, hparts, htarget],
            prose_anchor _ _ hprose⟩
      | none => exact ⟨children, by simp only [lowerNode, hparts, htarget], hprose⟩
  | _ => cases h

/-- The markup of a text is lowered to prose. -/
theorem exists_lowerAll_phrasing (ctx : Context) (width : Nat) {parts : List Markup}
    (h : Phrasing parts) (state : State) :
    ∃ nodes, lowerAll ctx width parts state = (nodes, state) ∧ Prose nodes := by
  induction h with
  | nil => exact ⟨[], by rw [lowerAll], .nil⟩
  | @leaf content span rest hcontent _ ih =>
      obtain ⟨first, hfirst, hprose⟩ := exists_lowerLeaf ctx width hcontent span state
      obtain ⟨others, hothers, hrest⟩ := ih
      refine ⟨first ++ others, ?_, hprose.append hrest⟩
      simp only [lowerAll, lowerNode, hfirst, hothers]
  | @branch role span parts rest hrole _ _ ihparts ihrest =>
      obtain ⟨children, hchildren, hinner⟩ := ihparts
      obtain ⟨first, hfirst, hprose⟩ := exists_lowerBranch ctx width hrole span hchildren hinner
      obtain ⟨others, hothers, hrest⟩ := ihrest
      refine ⟨first ++ others, ?_, hprose.append hrest⟩
      simp only [lowerAll, hfirst, hothers]

end Lower

end Folio
