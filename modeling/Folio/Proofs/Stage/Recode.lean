import Folio.Proofs.Pipeline.Reordering

/-!
# Rewriting code

A stage of a user's own that changes code for display gives `code` elements other children and
leaves everything else alone.  What such a stage may do is one relation; from it follows that the
blocks of the new tree have the heads of blocks of the old one.  The text of blocks, on the other
hand, is changed by nothing but highlighting.
-/

namespace Folio

/-! ## Rewritten code -/

/-- The second tree is the first one with other children in some of its `code` elements; no new
child holds a code block. -/
inductive Recodes : List Node → List Node → Prop
  | nil : Recodes [] []
  | text (value : String) {rest rest' : List Node} :
      Recodes rest rest' → Recodes (.text value :: rest) (.text value :: rest')
  | component (tag : ComponentHead) {children children' rest rest' : List Node} :
      Recodes children children' → Recodes rest rest' →
      Recodes (.component tag children :: rest) (.component tag children' :: rest')
  | element (head : ElementHead) {children children' rest rest' : List Node} :
      Recodes children children' → Recodes rest rest' →
      Recodes (.element head children :: rest) (.element head children' :: rest')
  | code {head : ElementHead} (children : List Node) {shown rest rest' : List Node} :
      head.tag = "code" → blocks shown = [] → Recodes rest rest' →
      Recodes (.element head children :: rest) (.element head shown :: rest')

/-- No `code` element of the tree holds a code block. -/
def BareCode (t : Tree) : Prop :=
  ∀ e ∈ elements t, e.head.tag = "code" → blocks e.children = []

section

variable {head : ElementHead} {tag : ComponentHead} {children rest t u : List Node}

theorem bareCode_nil : BareCode [] := by
  intro e he
  cases he

theorem bareCode_element : BareCode (.element head children :: rest) ↔
    (head.tag = "code" → blocks children = []) ∧ BareCode children ∧ BareCode rest := by
  unfold BareCode
  rw [elements_element, List.forall_mem_cons, List.forall_mem_append]

theorem bareCode_component : BareCode (.component tag children :: rest) ↔
    BareCode children ∧ BareCode rest := by
  unfold BareCode
  rw [elements_component, List.forall_mem_append]

theorem bareCode_append : BareCode (t ++ u) ↔ BareCode t ∧ BareCode u := by
  induction t with
  | nil => simp [bareCode_nil]
  | cons node t ih =>
      cases node with
      | element head children => simp [bareCode_element, ih, and_assoc]
      | component tag children => simp [bareCode_component, ih, and_assoc]
      | text value => exact ih

/-- A tree without blocks has none in its code. -/
theorem bareCode_of_blocks_eq_nil (h : blocks t = []) : BareCode t := by
  induction t using tree_induction with
  | nil => exact bareCode_nil
  | element head children rest ihc ihr =>
      rw [blocks_element, List.append_eq_nil_iff, List.append_eq_nil_iff] at h
      obtain ⟨-, hc, hr⟩ := h
      exact bareCode_element.2 ⟨fun _ => hc, ihc hc, ihr hr⟩
  | component tag children rest ihc ihr =>
      rw [blocks_component, List.append_eq_nil_iff] at h
      exact bareCode_component.2 ⟨ihc h.1, ihr h.2⟩
  | text value rest ih => exact ih h

/-- The code of a block is a `code` element. -/
theorem BareCode.blocks_codeChild? (h : BareCode t) {code : Element}
    (hcode : codeChild? t = some code) : blocks code.children = [] := by
  induction t using tree_induction with
  | nil => cases hcode
  | element head children rest _ ih =>
      obtain ⟨hbare, -, hr⟩ := bareCode_element.1 h
      rw [codeChild?_element] at hcode
      by_cases htag : head.tag = "code"
      · rw [if_pos htag] at hcode
        cases hcode
        exact hbare htag
      · rw [if_neg htag] at hcode
        exact ih hr hcode
  | component tag children rest _ ih => exact ih (bareCode_component.1 h).2 hcode
  | text value rest ih => exact ih h hcode

theorem BareCode.flatBlocks (h : BareCode t) : FlatBlocks t := by
  induction t using tree_induction with
  | nil => exact flatBlocks_nil
  | element head children rest ihc ihr =>
      obtain ⟨-, hc, hr⟩ := bareCode_element.1 h
      exact flatBlocks_element.2 ⟨fun _ _ hcode => hc.blocks_codeChild? hcode, ihc hc, ihr hr⟩
  | component tag children rest ihc ihr =>
      obtain ⟨hc, hr⟩ := bareCode_component.1 h
      exact flatBlocks_component.2 ⟨ihc hc, ihr hr⟩
  | text value rest ih => exact ih h

/-! ## The blocks of rewritten trees -/

theorem Recodes.isSome_codeChild?_eq (h : Recodes t u) :
    (codeChild? u).isSome = (codeChild? t).isSome := by
  induction h with
  | nil => rfl
  | text value _ ih => exact ih
  | component tag _ _ _ ih => exact ih
  | element head _ _ _ ih =>
      rw [codeChild?_element, codeChild?_element]
      by_cases hcode : head.tag = "code"
      · rw [if_pos hcode, if_pos hcode]
        rfl
      · rw [if_neg hcode, if_neg hcode, ih]
  | code children hcode =>
      rw [codeChild?_element, codeChild?_element, if_pos hcode, if_pos hcode]
      rfl

theorem Recodes.isCodeBlock_eq (h : Recodes t u) (head : ElementHead) :
    isCodeBlock head u = isCodeBlock head t := by
  rw [isCodeBlock, isCodeBlock, h.isSome_codeChild?_eq]

/-- The blocks of a rewritten tree have the heads of some blocks of the tree, in order. -/
theorem Recodes.map_head_sublist (h : Recodes t u) :
    ((blocks u).map Element.head).Sublist ((blocks t).map Element.head) := by
  induction h with
  | nil => exact .slnil
  | text value _ ih => exact ih
  | component tag _ _ ihc ihr =>
      rw [blocks_component, blocks_component, List.map_append, List.map_append]
      exact ihc.append ihr
  | element head hc _ ihc ihr =>
      rw [blocks_element, blocks_element, hc.isCodeBlock_eq]
      simp only [List.map_append]
      refine List.Sublist.append ?_ (ihc.append ihr)
      split
      · exact .refl _
      · exact .refl _
  | code children hcode hshown _ ih =>
      -- The blocks of the old code are gone, and the new code has none.
      rw [blocks_code hcode, blocks_code hcode, hshown, List.nil_append, List.map_append]
      exact ih.trans (List.sublist_append_right _ _)

/-- No block is lost if no code holds blocks. -/
theorem Recodes.length_blocks_eq (h : Recodes t u) (ht : BareCode t) :
    (blocks u).length = (blocks t).length := by
  induction h with
  | nil => rfl
  | text value _ ih => exact ih ht
  | component tag _ _ ihc ihr =>
      obtain ⟨hc, hr⟩ := bareCode_component.1 ht
      rw [blocks_component, blocks_component, List.length_append, List.length_append, ihc hc,
        ihr hr]
  | element head hrec _ ihc ihr =>
      obtain ⟨-, hc, hr⟩ := bareCode_element.1 ht
      rw [blocks_element, blocks_element, hrec.isCodeBlock_eq]
      simp only [List.length_append, ihc hc, ihr hr]
      split <;> rfl
  | code children hcode hshown _ ih =>
      obtain ⟨hbare, -, hr⟩ := bareCode_element.1 ht
      rw [blocks_code hcode, blocks_code hcode, hshown, hbare hcode, List.nil_append,
        List.nil_append, ih hr]

/-- Rewriting puts no block into code. -/
theorem Recodes.bareCode (h : Recodes t u) (ht : BareCode t) : BareCode u := by
  induction h with
  | nil => exact ht
  | text value _ ih => exact ih ht
  | component tag _ _ ihc ihr =>
      obtain ⟨hc, hr⟩ := bareCode_component.1 ht
      exact bareCode_component.2 ⟨ihc hc, ihr hr⟩
  | element head hrec _ ihc ihr =>
      obtain ⟨hbare, hc, hr⟩ := bareCode_element.1 ht
      refine bareCode_element.2 ⟨fun hcode => ?_, ihc hc, ihr hr⟩
      have hlength := hrec.length_blocks_eq hc
      rw [hbare hcode] at hlength
      exact List.length_eq_zero_iff.1 hlength
  | code children hcode hshown _ ih =>
      obtain ⟨-, -, hr⟩ := bareCode_element.1 ht
      exact bareCode_element.2 ⟨fun _ => hshown, bareCode_of_blocks_eq_nil hshown, ih hr⟩

/-- Replacing code in the whole tree rewrites it, if heads stay and no new code holds a block. -/
theorem recodes_replaceCode {ε : Type} {f : ElementHead → Element → Except ε (Option NewCode)}
    (hf : ∀ head code new, f head code = .ok (some new) → new.head = head ∧ blocks new.body = [])
    (t : Tree) :
    (∀ u, replaceCode f t = .ok u → Recodes t u) ∧
      ∀ shown u, blocks shown = [] → replaceFirst f shown t = .ok u → Recodes t u := by
  induction t using tree_induction with
  | nil =>
      constructor
      · intro u h
        cases h
        exact .nil
      · intro shown u _ h
        cases h
        exact .nil
  | element head children rest ihc ihr =>
      have hnode : ∀ node' rest', (Node.element head children).replaceCode f = .ok node' →
          Recodes rest rest' → Recodes (.element head children :: rest) (node' :: rest') := by
        intro node' rest' h hrest
        rcases replaceCode_element_eq_ok_iff.1 h with
          ⟨-, children', hc, rfl⟩ | ⟨code, new, children', -, hnew, hc, rfl⟩
        · exact .element head (ihc.1 children' hc) hrest
        · obtain ⟨hhead, hbody⟩ := hf head code new hnew
          rw [hhead]
          exact .element head (ihc.2 new.body children' hbody hc) hrest
      constructor
      · intro u h
        obtain ⟨node', rest', hn, hr, rfl⟩ := replaceCode_cons_eq_ok_iff.1 h
        exact hnode node' rest' hn (ihr.1 rest' hr)
      · intro shown u hshown h
        by_cases hcode : head.tag = "code"
        · obtain ⟨rest', hr, rfl⟩ := (replaceFirst_code_eq_ok_iff hcode).1 h
          exact .code children hcode hshown (ihr.1 rest' hr)
        · obtain ⟨node', rest', hn, hr, rfl⟩ :=
            (replaceFirst_cons_eq_ok_iff (codeChild?_singleton hcode children)).1 h
          exact hnode node' rest' hn (ihr.2 shown rest' hshown hr)
  | component tag children rest ihc ihr =>
      have hnode : ∀ node' rest', (Node.component tag children).replaceCode f = .ok node' →
          Recodes rest rest' → Recodes (.component tag children :: rest) (node' :: rest') := by
        intro node' rest' h hrest
        obtain ⟨children', hc, rfl⟩ := replaceCode_component_eq_ok_iff.1 h
        exact .component tag (ihc.1 children' hc) hrest
      constructor
      · intro u h
        obtain ⟨node', rest', hn, hr, rfl⟩ := replaceCode_cons_eq_ok_iff.1 h
        exact hnode node' rest' hn (ihr.1 rest' hr)
      · intro shown u hshown h
        obtain ⟨node', rest', hn, hr, rfl⟩ := (replaceFirst_cons_eq_ok_iff rfl).1 h
        exact hnode node' rest' hn (ihr.2 shown rest' hshown hr)
  | text value rest ih =>
      constructor
      · intro u h
        obtain ⟨node', rest', hn, hr, rfl⟩ := replaceCode_cons_eq_ok_iff.1 h
        cases hn
        exact .text value (ih.1 rest' hr)
      · intro shown u hshown h
        obtain ⟨node', rest', hn, hr, rfl⟩ := (replaceFirst_cons_eq_ok_iff rfl).1 h
        cases hn
        exact .text value (ih.2 shown rest' hshown hr)

/-! ## Revisions -/

/-- A revision puts no block into code. -/
theorem Revises.bareCode {R : Element → ElementHead → Prop} (h : Revises R t u) (ht : BareCode t) :
    BareCode u := by
  induction h with
  | nil => exact ht
  | text value _ ih => exact ih ht
  | component tag _ _ ihc ihr =>
      obtain ⟨hc, hr⟩ := bareCode_component.1 ht
      exact bareCode_component.2 ⟨ihc hc, ihr hr⟩
  | element htag _ hrev _ ihc ihr =>
      obtain ⟨hbare, hc, hr⟩ := bareCode_element.1 ht
      exact bareCode_element.2
        ⟨fun hcode => hrev.blocks_eq_nil (hbare (htag.symm.trans hcode)), ihc hc, ihr hr⟩
  | @link head head' children children' rest rest' l href hh htag _ _ _ ihc ihr =>
      obtain ⟨-, hc, hr⟩ := bareCode_element.1 ht
      refine bareCode_element.2 ⟨fun hcode => ?_, ?_, ihr hr⟩
      · exact (tag_ne_code_of_isHeading hh (htag.symm.trans hcode)).elim
      · refine of_placeLink l href children bareCode_nil (fun head nodes ha hnodes => ?_)
          (fun ht hu => bareCode_append.2 ⟨ht, hu⟩) (ihc hc)
        refine bareCode_element.2 ⟨fun hcode => ?_, hnodes, bareCode_nil⟩
        rw [ha] at hcode
        exact absurd hcode (by decide)
  | recode hpre htag _ _ hcode hs _ _ _ ihb iha ihr =>
      obtain ⟨-, hc, hr⟩ := bareCode_element.1 ht
      obtain ⟨hb, hca⟩ := bareCode_append.1 hc
      obtain ⟨-, -, ha⟩ := bareCode_element.1 hca
      have hrows := hs.blocks_eq_nil
      refine bareCode_element.2 ⟨fun hcode' => ?_, bareCode_append.2 ⟨ihb hb, bareCode_element.2
        ⟨fun _ => hrows, bareCode_of_blocks_eq_nil hrows, iha ha⟩⟩, ihr hr⟩
      rw [htag, hpre] at hcode'
      exact absurd hcode' (by decide)

end

/-! ## The texts of blocks -/

/-- The texts of the code blocks of a tree, as they are shown. -/
def blockTexts (t : Tree) : List String :=
  (blocks t).map fun block => content block.children

/-- What a tree shows of its blocks is said by its shape. -/
theorem blockTexts_tagsOnly (t : Tree) : blockTexts (tagsOnly t) = blockTexts t := by
  unfold blockTexts
  induction t using tree_induction with
  | nil => rfl
  | element head children rest ihc ihr =>
      have hview : SameView (tagsOnly children) children :=
        ⟨content_tagsOnly children, isSome_codeChild?_tagsOnly children⟩
      have hblock : isCodeBlock (.ofTag head.tag) (tagsOnly children) = isCodeBlock head children :=
        hview.isCodeBlock_eq rfl
      rw [tagsOnly_element, blocks_element, blocks_element, hblock]
      simp only [List.map_append, ihc, ihr]
      split
      · simp [content_tagsOnly]
      · rfl
  | component tag children rest ihc ihr => simp [ihc, ihr]
  | text value rest ih => simpa using ih

theorem SameShape.blockTexts_eq {t u : Tree} (h : SameShape t u) : blockTexts t = blockTexts u := by
  rw [← blockTexts_tagsOnly t, h, blockTexts_tagsOnly]

/-- A heading is no block, so its link is part of no block's own children. -/
theorem blockTexts_linkHeadings (link : SelfLink) (t : Tree) :
    blockTexts (linkHeadings link t) = blockTexts t := by
  unfold blockTexts
  induction t using tree_induction with
  | nil => rfl
  | component tag children rest ihc ihr => simp [ihc, ihr]
  | text value rest ih => simpa using ih
  | element head children rest ihc ihr =>
      rw [linkHeadings_element]
      by_cases hh : head.isHeading
      · have hne := tag_ne_pre_of_isHeading hh
        rw [blocks_element, blocks_element, isCodeBlock_eq_false hne, isCodeBlock_eq_false hne]
        cases selfHref? head with
        | none => simp [ihc, ihr]
        | some href => simp [blocks_placeLink, ihc, ihr]
      · have hplain : head.isHeading = false := by simpa using hh
        rw [selfHref?_eq_none hplain, Option.elim_none, blocks_element, blocks_element,
          (sameView_linkHeadings link children).isCodeBlock_eq rfl]
        simp only [List.map_append, ihc, ihr]
        split
        · simp [content_linkHeadings]
        · rfl

/-- Of the built-in stages only highlighting changes what blocks show. -/
theorem Stage.blockTexts_rewrite (stage : Stage) (t : Tree) :
    blockTexts (stage.rewrite t) = blockTexts t := by
  cases stage with
  | preserveRawCode => exact (sameShape_mapHeads tag_keepRaw t).blockTexts_eq
  | codeTitle => exact (sameShape_liftTitles t).blockTexts_eq
  | headingIds => exact (sameShape_mapHeads tag_giveId t).blockTexts_eq
  | headingAutolinks link => exact blockTexts_linkHeadings link t
  | attachRawCode => exact (sameShape_mapHeads shallow_publish.keepsTags t).blockTexts_eq
  | _ => rfl

end Folio
