import Folio.Proofs.Lower.Enclosure

/-!
# The text of a lowered tree

What a markup tree says is the text of its leaves in document order, with a space for the box of
each task; what stands in footnote definitions, or in rows and cells outside of tables, is not
shown.  A document that refers to no footnote says the same: lowering neither loses nor repeats a
part, and keeps their order.
-/

namespace Folio.Markdown

/-! ## What markup says -/

/-- What a leaf says in a document.  An image says nothing, and a reference to one only if nothing
is defined for it. -/
def Leaf.wording (defined : String → Bool) : Leaf → String
  | .text value => value
  | .inlineCode value => value
  | .code value _ _ => if value.isEmpty then "" else value ++ "\n"
  | .imageReference identifier _ alt _ => if defined identifier then "" else alt
  | .lineBreak | .rule | .image .. | .definition .. | .footnoteReference .. | .foreign .. => ""

/-- What stands before the parts of a branch: the space after the box of a task. -/
def Branch.leadWording : Branch → String
  | .item (some _) _ => " "
  | _ => ""

/-- Whether a branch is shown where it is a part of another one: footnote definitions never are, and
rows and cells only in tables. -/
def Branch.shows : Branch → Branch → Bool
  | .table _, .row => true
  | .row, .cell => true
  | _, .row => false
  | _, .cell => false
  | _, .footnoteDefinition .. => false
  | _, _ => true

mutual

/-- What a markup tree says as a part of a branch. -/
def Markup.textIn (defined : String → Bool) (parent : Branch) : Markup → String
  | .leaf content _ => content.wording defined
  | .branch role _ parts =>
    if parent.shows role then role.leadWording ++ textsIn defined role parts else ""

/-- What a list of markup trees says as the parts of a branch. -/
def textsIn (defined : String → Bool) (parent : Branch) : List Markup → String
  | [] => ""
  | node :: rest => node.textIn defined parent ++ textsIn defined parent rest

end

/-- Whether a node may be a part of a branch: the parts of tables are rows, and those of rows are
cells. -/
def Branch.admits : Branch → Markup → Bool
  | .table _, .branch .row _ _ => true
  | .table _, _ => false
  | .row, .branch .cell _ _ => true
  | .row, _ => false
  | _, _ => true

/-- Whether a node has only parts that it may have. -/
def Markup.isRegular : Markup → Bool
  | .leaf .. => true
  | .branch role _ parts => parts.all role.admits

/-- All tables among some trees and below are made of rows, and all rows of cells. -/
def Regular (nodes : List Markup) : Prop :=
  ∀ node ∈ allOf nodes, node.isRegular

instance (nodes : List Markup) : Decidable (Regular nodes) :=
  inferInstanceAs (Decidable (∀ node ∈ allOf nodes, node.isRegular))

/-- Whether a tree has a definition of a target for an identifier. -/
def hasTarget (root : Markup) (identifier : String) : Bool :=
  (definitions root).any (·.1 == identifier)

end Folio.Markdown

namespace Folio.Lower

open Folio.Markdown

/-! ## What is said on the way -/

/-- What lowering makes of something it comes across says. -/
def Visit.wording (defined : String → Bool) : Visit → String
  | .leaf _ content _ => content.wording defined
  | .box _ => " "

/-- What some visits say, one after the other. -/
def visitText (defined : String → Bool) (seen : List Visit) : String :=
  String.join (seen.map (Visit.wording defined))

theorem visitText_append (defined : String → Bool) (first second : List Visit) :
    visitText defined (first ++ second) = visitText defined first ++ visitText defined second := by
  rw [visitText, List.map_append, String.join_append]
  rfl

theorem visitText_leaf (defined : String → Bool) (width : Nat) (content : Leaf)
    (span : Option Span) :
    visitText defined [.leaf width content span] = content.wording defined := by
  rw [visitText, List.map_singleton, String.join_cons, String.join_nil, String.append_empty]
  rfl

theorem visitText_lead (defined : String → Bool) (role : Branch) :
    visitText defined (lead role) = role.leadWording := by
  cases role with
  | item checked spread => cases checked <;> rfl
  | _ => rfl

/-- The identifiers that a context has targets for. -/
def Context.hasTarget (ctx : Context) (identifier : String) : Bool :=
  (ctx.target? identifier).isSome

theorem hasTarget_contextOf (root : Markup) (source : String) :
    (contextOf root source).hasTarget = hasTarget root := by
  funext identifier
  rw [Context.hasTarget, Context.target?, Option.isSome_map, List.isSome_find?]
  rfl

/-! ## Nodes say what was come across -/

section

variable {ctx : Context} {s t : State} {nodes : List Node}

theorem content_codeBlock (value : String) (language note fenceSource : Option String)
    (position : Option Location) : content [codeBlock value language note fenceSource position] =
      if value.isEmpty then "" else value ++ "\n" := by
  rw [codeBlock, content_element, content_element]
  split <;> simp

/-- The nodes of a leaf that is no reference to a footnote say what the leaf says. -/
theorem content_lowerLeaf {width : Nat} {leaf : Leaf} {span : Option Span}
    (h : lowerLeaf ctx width leaf span s = (nodes, t))
    (hother : ∀ identifier label, leaf ≠ .footnoteReference identifier label) :
    content nodes = leaf.wording ctx.hasTarget := by
  cases leaf with
  | footnoteReference identifier label => exact (hother identifier label rfl).elim
  | code value language note =>
      simp only [lowerLeaf] at h
      split at h
      · cases h
        exact content_codeBlock ..
      · cases h
        exact content_codeBlock ..
      · cases h
        exact content_codeBlock ..
  | imageReference identifier label alt form =>
      simp only [lowerLeaf] at h
      cases htarget : ctx.target? identifier with
      | none =>
          rw [htarget] at h
          cases h
          simp [Leaf.wording, Context.hasTarget, htarget]
      | some target =>
          rw [htarget] at h
          cases h
          simp [Leaf.wording, Context.hasTarget, htarget, image]
  | _ =>
      cases h
      simp [Leaf.wording, placed, image]

/-- Without references to footnotes the nodes that lowering gives say what it came across. -/
theorem Woven.content_eq {seen : List Visit} (h : Woven ctx seen s nodes t)
    (hplain : referencesIn seen = []) : content nodes = visitText ctx.hasTarget seen := by
  induction h with
  | nil => rfl
  | @leaf width leaf span s t nodes hleaf =>
      rcases reference_cases leaf with ⟨identifier, label, rfl⟩ | ⟨hother, -⟩
      · cases hplain
      · rw [visitText_leaf]
        exact content_lowerLeaf hleaf hother
  | box => simp [taskBox, visitText, Visit.wording]
  | append _ _ ihfirst ihsecond =>
      rw [referencesIn_append, List.append_eq_nil_iff] at hplain
      rw [content_append, visitText_append, ihfirst hplain.1, ihsecond hplain.2]
  | element _ ih => rw [content_element, content_nil, String.append_empty, ih hplain]
  | component _ ih => rw [content_component, content_nil, String.append_empty, ih hplain]

end

/-! ## What is come across says what the markup says -/

/-- Where the walk is among the parts of a branch. -/
def regionOf : Branch → Region
  | .table _ => .rows
  | .row => .cells
  | _ => .flow

/-- The walk enters the parts that are shown. -/
theorem enter?_regionOf {parent role : Branch} {span : Option Span} {parts : List Markup}
    (h : parent.admits (.branch role span parts)) :
    (regionOf parent).enter? role = if parent.shows role then some (regionOf role) else none := by
  cases parent with
  | table columns =>
      cases role with
      | row => rfl
      | _ => cases h
  | row =>
      cases role with
      | cell => rfl
      | _ => cases h
  | _ => cases role <;> rfl

/-- A leaf is come across wherever it may stand. -/
theorem visits_leaf {parent : Branch} {leaf : Leaf} {span : Option Span}
    (h : parent.admits (.leaf leaf span)) (source : List Char) (width : Nat) (rest : List Markup) :
    (regionOf parent).visits source width (.leaf leaf span :: rest) =
      .leaf width leaf span :: (regionOf parent).visits source width rest := by
  cases parent with
  | table columns => cases h
  | row => cases h
  | _ => rfl

theorem regular_leaf {leaf : Leaf} {span : Option Span} {rest : List Markup}
    (h : Regular (.leaf leaf span :: rest)) : Regular rest := by
  intro node hm
  exact h node (List.mem_cons_of_mem _ hm)

theorem regular_branch {role : Branch} {span : Option Span} {parts rest : List Markup}
    (h : Regular (.branch role span parts :: rest)) :
    (∀ part ∈ parts, role.admits part) ∧ Regular parts ∧ Regular rest := by
  unfold Regular at h
  rw [allOf_branch, List.forall_mem_cons, List.forall_mem_append] at h
  obtain ⟨hnode, hparts, hrest⟩ := h
  exact ⟨List.all_eq_true.1 hnode, hparts, hrest⟩

/-- Lowering comes across what regular markup says, in order. -/
theorem visitText_visits (defined : String → Bool) (source : List Char) {nodes : List Markup}
    (hregular : Regular nodes) (parent : Branch) (hadmits : ∀ node ∈ nodes, parent.admits node)
    (width : Nat) :
    visitText defined ((regionOf parent).visits source width nodes) =
      textsIn defined parent nodes := by
  -- The walk is always in the region of the branch whose parts the nodes are.
  induction nodes using markup_induction generalizing parent width with
  | nil => cases parent <;> rfl
  | leaf leaf span rest ih =>
      rw [List.forall_mem_cons] at hadmits
      rw [visits_leaf hadmits.1, ← List.singleton_append, visitText_append, visitText_leaf,
        ih (regular_leaf hregular) parent hadmits.2]
      rfl
  | branch role span parts rest ihparts ihrest =>
      rw [List.forall_mem_cons] at hadmits
      obtain ⟨hinner, hparts, hrest⟩ := regular_branch hregular
      rw [visits_branch, visitText_append, ihrest hrest parent hadmits.2, enter?_regionOf hadmits.1,
        textsIn, Markup.textIn]
      by_cases hshows : parent.shows role
      · rw [if_pos hshows, if_pos hshows, Option.elim_some, visitText_append, visitText_lead,
          ihparts hparts role hinner]
      · rw [if_neg hshows, if_neg hshows]
        rfl

/-! ## The whole tree -/

/-- Without references to footnotes the tree is what the walk through the body gives. -/
theorem eq_lowerNode_of_lower {root : Markup} {source : String} {tree : Tree}
    (hplain : bodyReferences root source = []) (h : lower root source = .ok tree) :
    tree = (lowerNode (contextOf root source) 0 root {}).1 := by
  have hknown : ({} : State).order = ([] : List String).eraseDups := rfl
  have hlower := lower_eq_elim rfl ((woven_body root source).order_eq hknown)
  rw [h, hplain, if_pos rfl, List.append_nil] at hlower
  generalize (footnoteItems _ _ _ _).2.unclosed = unclosed at hlower
  cases unclosed with
  | none =>
      cases hlower
      rfl
  | some error => cases hlower

/-- What the body of a tree refers to is among the references of the tree. -/
theorem bodyReferences_subset (root : Markup) (source : String) :
    bodyReferences root source ⊆ footnoteReferences root := by
  have hroot : allOf [root] ⊆ root.all := by
    rw [allOf_singleton]
    exact List.Subset.refl _
  intro identifier hm
  exact mem_footnoteReferences hroot hm

end Lower

open Lower Markdown in
/-- The tree of a body without references to footnotes says what its markup says. -/
theorem content_of_lower {root : Markup} {source : String} (hplain : footnoteReferences root = [])
    (hregular : Regular [root]) {tree : Tree} (h : lower root source = .ok tree) :
    content tree = root.textIn (hasTarget root) .root := by
  have hreferences : bodyReferences root source = [] := by
    have hsubset := bodyReferences_subset root source
    rw [hplain] at hsubset
    exact List.subset_nil.1 hsubset
  have hwoven := woven_body root source
  have hvisits := visitText_visits (hasTarget root) (contextOf root source).source hregular
    .root (fun _ _ => rfl) 0
  rw [eq_lowerNode_of_lower hreferences h, hwoven.content_eq hreferences, hasTarget_contextOf]
  refine hvisits.trans ?_
  rw [textsIn, textsIn, String.append_empty]

open Markdown in
/-- A page with a task list, whose second item is spread out, a table, a reference to an image that
is defined and one to an image and a link that are not, and a footnote that nothing refers to. -/
def plannerPage : Markup :=
  .branch .root none
    [.branch (.list false none false) none
      [.branch (.item (some true) false) none
        [.branch .paragraph none [.leaf (.text "sow") none]],
        .branch (.item none true) none
          [.branch .paragraph none [.leaf (.text "reap") none], .leaf (.code "x" none none) none]],
      .branch (.table [none]) none
        [.branch .row none [.branch .cell none [.leaf (.inlineCode "head") none]],
          .branch .row none [.branch .cell none [.leaf (.imageReference "a" none "A" .full) none]]],
      .leaf (.definition "a" none "a.png" none) none,
      .branch (.tagged true none []) none
        [.branch (.linkReference "b" none .full) none
          [.leaf (.imageReference "b" none "B" .full) none, .leaf .lineBreak none]],
      .branch (.footnoteDefinition "n" none) none [.leaf (.text "note") none]]

open Markdown in
theorem content_of_lower_plannerPage :
    footnoteReferences plannerPage = [] ∧ Regular [plannerPage] ∧
      ∃ tree, lower plannerPage "" = .ok tree ∧
        content tree = plannerPage.textIn (hasTarget plannerPage) .root ∧
        content tree = " sowreapx\nheadB" := by
  have hplain : footnoteReferences plannerPage = [] := rfl
  have hregular : Regular [plannerPage] := by decide
  obtain ⟨tree, htree⟩ : ∃ tree, lower plannerPage "" = .ok tree := ⟨_, rfl⟩
  have hcontent := content_of_lower hplain hregular htree
  have hsaid : plannerPage.textIn (hasTarget plannerPage) .root = " sowreapx\nheadB" := by
    decide +kernel
  exact ⟨hplain, hregular, tree, htree, hcontent, hcontent.trans hsaid⟩

end Folio
