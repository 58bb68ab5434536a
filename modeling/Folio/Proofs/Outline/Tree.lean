import Folio.Proofs.Pipeline.Reordering
import Folio.Tree.View

/-!
# Outlines of trees

The outline of a tree is made of the levels, ids and texts of its headings.  Stages that keep ids
keep the outline, as long as they change no text of a heading and add and drop no heading; for
highlighting this takes that headings hold no code and code holds no headings.  So what the standard
stages make of such a tree has the outline that the tree has once its headings have ids.
-/

namespace Folio

/-! ## The first node -/

theorem elements_append (t u : Tree) : elements (t ++ u) = elements t ++ elements u := by
  induction t with
  | nil => rfl
  | cons node t ih => cases node <;> simp [ih]

/-- What `f` reads off the elements of a tree, in document order. -/
def readings {α : Type} (f : Element → Option α) (t : Tree) : List α :=
  (elements t).filterMap f

section

variable {α : Type} (f : Element → Option α) (head : ElementHead) (tag : ComponentHead)
  (value : String) (children rest : List Node)

@[simp] theorem readings_nil : readings f [] = [] := rfl

theorem readings_element : readings f (.element head children :: rest) =
    (f ⟨head, children⟩).toList ++ (readings f children ++ readings f rest) := by
  rw [readings, elements_element, List.filterMap_cons, List.filterMap_append]
  cases f ⟨head, children⟩ <;> rfl

@[simp] theorem readings_component : readings f (.component tag children :: rest) =
    readings f children ++ readings f rest := by
  rw [readings, elements_component, List.filterMap_append]
  rfl

@[simp] theorem readings_text : readings f (.text value :: rest) = readings f rest := rfl

theorem readings_append (t u : Tree) : readings f (t ++ u) = readings f t ++ readings f u := by
  rw [readings, elements_append, List.filterMap_append]
  rfl

@[simp] theorem treeOutline_nil : treeOutline [] = [] := rfl

theorem treeOutline_element : treeOutline (.element head children :: rest) =
    (heading? ⟨head, children⟩).toList ++ (treeOutline children ++ treeOutline rest) :=
  readings_element heading? head children rest

@[simp] theorem treeOutline_component : treeOutline (.component tag children :: rest) =
    treeOutline children ++ treeOutline rest :=
  readings_component heading? tag children rest

@[simp] theorem treeOutline_text :
    treeOutline (.text value :: rest) = treeOutline rest := rfl

theorem treeOutline_append (t u : Tree) : treeOutline (t ++ u) = treeOutline t ++ treeOutline u :=
  readings_append heading? t u

end

/-- An element that is no heading is not in the outline. -/
theorem heading?_eq_none {head : ElementHead} {children : List Node} (h : head.isHeading = false) :
    heading? ⟨head, children⟩ = none := by
  have hlevel : head.headingLevel? = none := by simpa [ElementHead.isHeading] using h
  rw [heading?, hlevel]
  rfl

/-- What the outline says of an element is said by its tag, its id and its text. -/
theorem heading?_congr {e e' : Element} (htag : e.head.tag = e'.head.tag)
    (hid : e.head.attribute? "id" = e'.head.attribute? "id")
    (hcontent : content e.children = content e'.children) : heading? e = heading? e' := by
  have hlevel : e.head.headingLevel? = e'.head.headingLevel? := by
    rw [ElementHead.headingLevel?, ElementHead.headingLevel?, htag]
  rw [heading?, heading?, hlevel, hid, hcontent]

/-! ## Trees whose heads have a property -/

/-- All elements of a tree have heads with a property. -/
def AllHeads (P : ElementHead → Prop) (t : Tree) : Prop :=
  ∀ e ∈ elements t, P e.head

section

variable {P : ElementHead → Prop} {head : ElementHead} {tag : ComponentHead} {value : String}
  {children rest t u : List Node}

@[simp] theorem allHeads_nil : AllHeads P [] := by
  intro e he
  cases he

@[simp] theorem allHeads_element : AllHeads P (.element head children :: rest) ↔
    P head ∧ AllHeads P children ∧ AllHeads P rest := by
  unfold AllHeads
  rw [elements_element, List.forall_mem_cons, List.forall_mem_append]

@[simp] theorem allHeads_component : AllHeads P (.component tag children :: rest) ↔
    AllHeads P children ∧ AllHeads P rest := by
  unfold AllHeads
  rw [elements_component, List.forall_mem_append]

@[simp] theorem allHeads_text : AllHeads P (.text value :: rest) ↔ AllHeads P rest := Iff.rfl

theorem allHeads_append : AllHeads P (t ++ u) ↔ AllHeads P t ∧ AllHeads P u := by
  unfold AllHeads
  rw [elements_append, List.forall_mem_append]

/-- The link of a heading adds nothing but an anchor. -/
theorem allHeads_placeLink (ha : ∀ head : ElementHead, head.tag = "a" → P head) (link : SelfLink)
    (href : String) (children : List Node) {linked : List Node} (h : AllHeads P linked) :
    AllHeads P (placeLink link href children linked) :=
  of_placeLink link href children allHeads_nil
    (fun _ _ htag hnodes => allHeads_element.2 ⟨ha _ htag, hnodes, allHeads_nil⟩)
    (fun ht hu => allHeads_append.2 ⟨ht, hu⟩) h

theorem Spans.allHeads (hs : Spans t) (hspan : ∀ head : ElementHead, head.tag = "span" → P head) :
    AllHeads P t := by
  induction hs with
  | nil => exact allHeads_nil
  | text value _ ih => exact ih
  | span htag _ _ ihc ihr => exact allHeads_element.2 ⟨hspan _ htag, ihc, ihr⟩

/-- A property of tags that anchors and spans have is kept by revisions. -/
theorem Revises.allHeads {R : Element → ElementHead → Prop} (h : Revises R t u)
    (htag : ∀ head head' : ElementHead, head'.tag = head.tag → P head → P head')
    (ha : ∀ head : ElementHead, head.tag = "a" → P head)
    (hspan : ∀ head : ElementHead, head.tag = "span" → P head) (ht : AllHeads P t) :
    AllHeads P u := by
  induction h with
  | nil => exact ht
  | text value _ ih => exact ih ht
  | component tag _ _ ihc ihr =>
      rw [allHeads_component] at ht ⊢
      exact ⟨ihc ht.1, ihr ht.2⟩
  | element hkept _ _ _ ihc ihr =>
      rw [allHeads_element] at ht ⊢
      exact ⟨htag _ _ hkept ht.1, ihc ht.2.1, ihr ht.2.2⟩
  | link l href _ hkept _ _ _ ihc ihr =>
      rw [allHeads_element] at ht ⊢
      exact ⟨htag _ _ hkept ht.1, allHeads_placeLink ha l href _ (ihc ht.2.1), ihr ht.2.2⟩
  | recode _ hkept _ _ _ hs _ _ _ ihb iha ihr =>
      rw [allHeads_element, allHeads_append, allHeads_element] at ht ⊢
      obtain ⟨hhead, ⟨hbefore, hcode, -, hafter⟩, hrest⟩ := ht
      exact ⟨htag _ _ hkept hhead, ⟨ihb hbefore, hcode, hs.allHeads hspan, iha hafter⟩, ihr hrest⟩

end

/-! ## Code and headings apart -/

/-- A tree without code blocks. -/
def CodeFree (t : Tree) : Prop :=
  AllHeads (fun head => head.tag ≠ "pre") t

/-- A tree without headings. -/
def Headless (t : Tree) : Prop :=
  AllHeads (fun head => head.isHeading = false) t

/-- Headings hold no code, and code holds no headings. -/
def Apart (t : Tree) : Prop :=
  ∀ e ∈ elements t, (e.head.isHeading → CodeFree e.children) ∧
    (e.head.tag = "pre" → Headless e.children)

/-- No code block holds a heading. -/
def HeadlessBlocks (t : Tree) : Prop :=
  ∀ block ∈ blocks t, Headless block.children

instance (t : Tree) : Decidable (Headless t) :=
  inferInstanceAs (Decidable (∀ e ∈ elements t, e.head.isHeading = false))

instance (t : Tree) : Decidable (HeadlessBlocks t) :=
  inferInstanceAs (Decidable (∀ block ∈ blocks t, Headless block.children))

section

variable {R : Element → ElementHead → Prop} {head : ElementHead} {tag : ComponentHead}
  {children rest t u : List Node}

theorem headlessBlocks_element : HeadlessBlocks (.element head children :: rest) ↔
    (isCodeBlock head children → Headless children) ∧ HeadlessBlocks children ∧
      HeadlessBlocks rest := by
  unfold HeadlessBlocks
  rw [blocks_element, List.forall_mem_append, List.forall_mem_append]
  by_cases hblock : isCodeBlock head children
  · simp [hblock]
  · simp [hblock]

theorem headlessBlocks_component : HeadlessBlocks (.component tag children :: rest) ↔
    HeadlessBlocks children ∧ HeadlessBlocks rest := by
  unfold HeadlessBlocks
  rw [blocks_component, List.forall_mem_append]

theorem headlessBlocks_append :
    HeadlessBlocks (t ++ u) ↔ HeadlessBlocks t ∧ HeadlessBlocks u := by
  unfold HeadlessBlocks
  rw [blocks_append, List.forall_mem_append]

theorem Apart.headlessBlocks (h : Apart t) : HeadlessBlocks t := by
  intro block hb
  obtain ⟨hm, hblock⟩ := List.mem_filter.1 hb
  exact (h block hm).2 (tag_of_isCodeBlock hblock)

theorem apart_nil : Apart [] := by
  intro e he
  cases he

theorem apart_element : Apart (.element head children :: rest) ↔
    ((head.isHeading → CodeFree children) ∧ (head.tag = "pre" → Headless children)) ∧
      Apart children ∧ Apart rest := by
  unfold Apart
  rw [elements_element, List.forall_mem_cons, List.forall_mem_append]

theorem apart_component :
    Apart (.component tag children :: rest) ↔ Apart children ∧ Apart rest := by
  unfold Apart
  rw [elements_component, List.forall_mem_append]

theorem apart_append : Apart (t ++ u) ↔ Apart t ∧ Apart u := by
  unfold Apart
  rw [elements_append, List.forall_mem_append]

theorem isHeading_eq_false_of_tag_eq {head : ElementHead} {tag : String} (h : head.tag = tag)
    (htag : (ElementHead.ofTag tag).isHeading = false) : head.isHeading = false := by
  rw [← htag]
  exact isHeading_of_tag_eq h

theorem Revises.codeFree (h : Revises R t u) (ht : CodeFree t) : CodeFree u :=
  h.allHeads (fun _ _ hkept hne => hkept ▸ hne) (fun _ ha => by rw [ha]; decide)
    (fun _ hs => by rw [hs]; decide) ht

theorem Revises.headless (h : Revises R t u) (ht : Headless t) : Headless u :=
  h.allHeads (fun _ _ hkept hplain => (isHeading_of_tag_eq hkept).trans hplain)
    (fun _ ha => isHeading_eq_false_of_tag_eq ha (by decide))
    (fun _ hs => isHeading_eq_false_of_tag_eq hs (by decide)) ht

/-- A revision of a tree without code keeps its text. -/
theorem Revises.content_eq (h : Revises R t u) (ht : CodeFree t) : content u = content t := by
  induction h with
  | nil => rfl
  | text value _ ih => rw [content_text, content_text, ih ht]
  | component tag _ _ ihc ihr =>
      obtain ⟨hc, hr⟩ := allHeads_component.1 ht
      rw [content_component, content_component, ihc hc, ihr hr]
  | element _ _ _ _ ihc ihr =>
      obtain ⟨-, hc, hr⟩ := allHeads_element.1 ht
      rw [content_element, content_element, ihc hc, ihr hr]
  | link l href _ _ _ _ _ ihc ihr =>
      obtain ⟨-, hc, hr⟩ := allHeads_element.1 ht
      rw [content_element, content_element, content_placeLink, ihc hc, ihr hr]
  | recode hpre => exact ((allHeads_element.1 ht).1 hpre).elim

/-! ## Readings of headings -/

section

variable {α : Type} {f : Element → Option α}

/-- Nothing is read off a tree without headings if only headings are read. -/
theorem Headless.readings_eq_nil (hplain : ∀ e : Element, e.head.isHeading = false → f e = none)
    (h : Headless t) : readings f t = [] := by
  rw [readings, List.filterMap_eq_nil_iff]
  exact fun e he => hplain e (h e he)

theorem Headless.treeOutline_eq_nil (h : Headless t) : treeOutline t = [] :=
  h.readings_eq_nil fun _ he => heading?_eq_none he

/-- What is not read off anchors is not read off the link of a heading. -/
theorem readings_placeLink (ha : ∀ e : Element, e.head.tag = "a" → f e = none)
    (link : SelfLink) (href : String) (children linked : List Node) :
    readings f (placeLink link href children linked) = readings f linked := by
  have hanchor : ∀ (head : ElementHead) (nodes : List Node), head.tag = "a" →
      readings f [.element head nodes] = readings f nodes := by
    intro head nodes htag
    rw [readings_element, ha _ htag, readings_nil, List.append_nil]
    rfl
  have hicon : readings f [iconAnchor href] = [] := hanchor _ [] rfl
  have hwrap : readings f [wrapAnchor href linked] = readings f linked := hanchor _ linked rfl
  rcases placeLink_cases link href children linked with h | h | h | h
  · rw [h]
  · rw [h, hwrap]
  · rw [h, readings_append, hicon, List.nil_append]
  · rw [h, readings_append, hicon, List.append_nil]

/-- What is read off headings alone, and not changed where a heading is revised, is not changed by
revisions of a tree whose code holds no headings. -/
theorem Revises.readings_eq (h : Revises R t u)
    (hplain : ∀ e : Element, e.head.isHeading = false → f e = none)
    (hkept : ∀ e ∈ elements t, e.head.isHeading → ∀ head nodes linked, head.tag = e.head.tag →
      R e head → Revises R e.children linked → content nodes = content linked →
        f ⟨head, nodes⟩ = f e)
    (ht : HeadlessBlocks t) : readings f u = readings f t := by
  induction h with
  | nil => rfl
  | text value _ ih => exact ih hkept ht
  | component tag _ _ ihc ihr =>
      rw [elements_component, List.forall_mem_append] at hkept
      obtain ⟨hc, hr⟩ := headlessBlocks_component.1 ht
      rw [readings_component, readings_component, ihc hkept.1 hc, ihr hkept.2 hr]
  | @element head head' children children' rest rest' htag hr hc _ ihc ihr =>
      rw [elements_element, List.forall_mem_cons, List.forall_mem_append] at hkept
      obtain ⟨hhead, hbelow, hafter⟩ := hkept
      obtain ⟨-, hac, har⟩ := headlessBlocks_element.1 ht
      have hread : f ⟨head', children'⟩ = f ⟨head, children⟩ := by
        by_cases hh : head.isHeading
        · exact hhead hh head' children' children' htag hr hc rfl
        · have hno : head.isHeading = false := by simpa using hh
          have hno' : head'.isHeading = false := (isHeading_of_tag_eq htag).trans hno
          rw [hplain ⟨head, children⟩ hno, hplain ⟨head', children'⟩ hno']
      rw [readings_element, readings_element, hread, ihc hbelow hac, ihr hafter har]
  | @link head head' children children' rest rest' l href hh htag hr hc _ ihc ihr =>
      rw [elements_element, List.forall_mem_cons, List.forall_mem_append] at hkept
      obtain ⟨hhead, hbelow, hafter⟩ := hkept
      obtain ⟨-, hac, har⟩ := headlessBlocks_element.1 ht
      have hread := hhead hh head' _ children' htag hr hc
        (content_placeLink l href children children')
      have ha : ∀ e : Element, e.head.tag = "a" → f e = none :=
        fun e htag => hplain e (isHeading_eq_false_of_tag_eq htag (by decide))
      rw [readings_element, readings_element, hread, readings_placeLink ha, ihc hbelow hac,
        ihr hafter har]
  | @recode head head' code before before' body rows after after' rest rest' hpre htag hr hb hcode
    hs
      _ _ _ ihb iha ihr =>
      -- The block is no heading, and neither is its `code`, nor anything in the old or the new
      -- code.
      simp only [elements_element, elements_append, List.forall_mem_cons, List.forall_mem_append]
        at hkept
      obtain ⟨-, ⟨hbelow, -, -, hbehind⟩, hafter⟩ := hkept
      obtain ⟨hheadless, hac, har⟩ := headlessBlocks_element.1 ht
      obtain ⟨hbefore, hcodeAfter⟩ := headlessBlocks_append.1 hac
      obtain ⟨-, -, hbehindCode⟩ := headlessBlocks_element.1 hcodeAfter
      obtain ⟨-, hcodeBody⟩ :=
        allHeads_append.1 (hheadless (isCodeBlock_cut hpre hb hcode body after))
      obtain ⟨-, hbody, -⟩ := allHeads_element.1 hcodeBody
      have hrows : Headless rows :=
        hs.allHeads fun _ hspan => isHeading_eq_false_of_tag_eq hspan (by decide)
      have hno := isHeading_eq_false_of_tag (Or.inl hpre)
      have hno' := isHeading_eq_false_of_tag (Or.inl (htag.trans hpre))
      have hnoCode := isHeading_eq_false_of_tag (Or.inr hcode)
      rw [readings_element, readings_element, hplain ⟨head, _⟩ hno, hplain ⟨head', _⟩ hno',
        readings_append, readings_append, readings_element, readings_element,
        hplain ⟨code, rows⟩ hnoCode, hplain ⟨code, body⟩ hnoCode, hrows.readings_eq_nil hplain,
        Headless.readings_eq_nil hplain hbody, ihb hbelow hbefore, iha hbehind hbehindCode,
        ihr hafter har]

end

/-- A revision that keeps ids keeps the outline. -/
theorem Revises.treeOutline_eq (h : Revises R t u)
    (hid : ∀ e head, R e head → head.attribute? "id" = e.head.attribute? "id") (ht : Apart t) :
    treeOutline u = treeOutline t := by
  refine h.readings_eq (f := heading?) (fun e he => heading?_eq_none he) ?_ ht.headlessBlocks
  intro e he hh head nodes linked htag hr hrev hcontent
  exact heading?_congr htag (hid e head hr) (hcontent.trans (hrev.content_eq ((ht e he).1 hh)))

theorem apart_of_headless (hh : Headless t) (hc : CodeFree t) : Apart t := by
  intro e he
  constructor
  · intro hheading
    rw [hh e he] at hheading
    cases hheading
  · intro hpre
    exact (hc e he hpre).elim

theorem apart_placeLink (link : SelfLink) (href : String) (children : List Node)
    {linked : List Node} (h : Apart linked) : Apart (placeLink link href children linked) := by
  have hplain : (ElementHead.ofTag "a").isHeading = false := by decide
  refine of_placeLink link href children apart_nil (fun head nodes htag hnodes => ?_)
    (fun ht hu => apart_append.2 ⟨ht, hu⟩) h
  refine apart_element.2 ⟨⟨fun hheading => ?_, fun hpre => ?_⟩, hnodes, apart_nil⟩
  · rw [isHeading_eq_false_of_tag_eq htag hplain] at hheading
    cases hheading
  · rw [htag] at hpre
    exact absurd hpre (by decide)

/-- A revision keeps headings and code apart. -/
theorem Revises.apart (h : Revises R t u) (ht : Apart t) : Apart u := by
  induction h with
  | nil => exact ht
  | text value _ ih => exact ih ht
  | component tag _ _ ihc ihr =>
      rw [apart_component] at ht ⊢
      exact ⟨ihc ht.1, ihr ht.2⟩
  | @element head head' children children' rest rest' hkept hr hc _ ihc ihr =>
      rw [apart_element] at ht ⊢
      obtain ⟨⟨hcode, hheadless⟩, hac, har⟩ := ht
      refine ⟨⟨fun hh => hc.codeFree (hcode ?_), fun hpre => hc.headless (hheadless ?_)⟩, ihc hac,
        ihr har⟩
      · exact (isHeading_of_tag_eq hkept).symm.trans hh
      · exact hkept.symm.trans hpre
  | @link head head' children children' rest rest' l href hh hkept hr hc _ ihc ihr =>
      rw [apart_element] at ht ⊢
      obtain ⟨⟨hcode, -⟩, hac, har⟩ := ht
      have hfree : CodeFree (placeLink l href children children') :=
        allHeads_placeLink (fun _ ha => by rw [ha]; decide) l href children (hc.codeFree (hcode hh))
      refine ⟨⟨fun _ => hfree, fun hpre => ?_⟩, apart_placeLink l href children (ihc hac), ihr har⟩
      have hplain := isHeading_eq_false_of_tag (Or.inl (hkept.symm.trans hpre))
      rw [hplain] at hh
      cases hh
  | @recode head head' code before before' body rows after after' rest rest' hpre hkept hr _ hcode
    hs
      hb ha _ ihb iha ihr =>
      rw [apart_element, apart_append, apart_element] at ht ⊢
      obtain ⟨⟨-, hheadless⟩, ⟨hab, -, -, haa⟩, har⟩ := ht
      obtain ⟨hlb, hla⟩ := allHeads_append.1 (hheadless hpre)
      obtain ⟨hplainCode, -, hla⟩ := allHeads_element.1 hla
      have hlrows : Headless rows :=
        hs.allHeads fun _ htag => isHeading_eq_false_of_tag_eq htag (by decide)
      have hfree : CodeFree rows := hs.allHeads fun _ htag => by rw [htag]; decide
      have hnew : Headless (before' ++ .element code rows :: after') :=
        allHeads_append.2 ⟨hb.headless hlb,
          allHeads_element.2 ⟨hplainCode, hlrows, ha.headless hla⟩⟩
      refine ⟨⟨fun hh => ?_, fun _ => hnew⟩,
        ⟨ihb hab, ⟨⟨fun hh => ?_, fun _ => hlrows⟩, apart_of_headless hlrows hfree, iha haa⟩⟩,
        ihr har⟩
      · -- A block is no heading,
        rw [isHeading_eq_false_of_tag (Or.inl (hkept.trans hpre))] at hh
        cases hh
      · -- and neither is its `code`.
        rw [hplainCode] at hh
        cases hh

/-- A revision puts no heading into a code block. -/
theorem Revises.headlessBlocks (h : Revises R t u) (ht : HeadlessBlocks t) : HeadlessBlocks u := by
  induction h with
  | nil => exact ht
  | text value _ ih => exact ih ht
  | component tag _ _ ihc ihr =>
      rw [headlessBlocks_component] at ht ⊢
      exact ⟨ihc ht.1, ihr ht.2⟩
  | @element head head' children children' rest rest' htag hr hc _ ihc ihr =>
      rw [headlessBlocks_element] at ht ⊢
      refine ⟨fun hblock => hc.headless (ht.1 ?_), ihc ht.2.1, ihr ht.2.2⟩
      rwa [hc.isCodeBlock_eq htag] at hblock
  | @link head head' children children' rest rest' l href hh htag hr hc _ ihc ihr =>
      rw [headlessBlocks_element] at ht ⊢
      refine ⟨fun hblock => ?_, ?_, ihr ht.2.2⟩
      · rw [isCodeBlock_eq_false (htag ▸ tag_ne_pre_of_isHeading hh)] at hblock
        cases hblock
      · unfold HeadlessBlocks
        rw [blocks_placeLink]
        exact ihc ht.2.1
  | @recode head head' code before before' body rows after after' rest rest' hpre htag hr hbefore
      hcode hs hb ha _ ihb iha ihr =>
      rw [headlessBlocks_element, headlessBlocks_append, headlessBlocks_element] at ht ⊢
      obtain ⟨hheadless, ⟨hab, -, -, haa⟩, har⟩ := ht
      have hall := hheadless (isCodeBlock_cut hpre hbefore hcode body after)
      obtain ⟨hlb, hla⟩ := allHeads_append.1 hall
      obtain ⟨hplainCode, -, hla⟩ := allHeads_element.1 hla
      have hlrows : Headless rows :=
        hs.allHeads fun _ htag => isHeading_eq_false_of_tag_eq htag (by decide)
      refine ⟨fun _ => ?_, ⟨ihb hab, fun _ => hlrows, ?_, iha haa⟩, ihr har⟩
      · exact allHeads_append.2
          ⟨hb.headless hlb, allHeads_element.2 ⟨hplainCode, hlrows, ha.headless hla⟩⟩
      · intro block hm
        rw [hs.blocks_eq_nil] at hm
        cases hm

end

end Folio
