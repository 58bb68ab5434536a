import Folio.Proofs.Dict
import Folio.Proofs.Stage.Shape

/-!
# Stages in either order

Keeping texts, lifting titles, giving ids, linking headings and publishing texts change different
parts of a tree, and none of them changes what another one looks at: of code blocks the first two
and the last change different attributes, and the other two change headings alone.  So any two of
them may change places, but for the two pairs in which one prepares what the other one uses.
-/

namespace Folio

/-! ## Publishing without failure -/

/-- The head of a code block with its kept text published, if it has one. -/
def publish (head : ElementHead) (children : List Node) : ElementHead :=
  if isCodeBlock head children then head.setAttribute? "raw" head.data.rawText else head

theorem eq_publish {head head' : ElementHead} {children : List Node}
    (h : publishRaw head children = .ok head') : head' = publish head children := by
  by_cases hblock : isCodeBlock head children
  · obtain ⟨raw, hraw, rfl⟩ := publishRaw_eq_ok (e := ⟨head, children⟩) hblock h
    have hkept : head.data.rawText = some raw := hraw
    rw [publish, if_pos hblock, hkept]
    rfl
  · rw [publishRaw, if_neg hblock] at h
    cases h
    rw [publish, if_neg hblock]

/-- A change of heads that succeeds is one that cannot fail. -/
theorem eq_mapHeads_of_tryMapHeads {ε : Type} {f : ElementHead → List Node → Except ε ElementHead}
    {g : ElementHead → List Node → ElementHead}
    (hfg : ∀ head children head', f head children = .ok head' → head' = g head children)
    {t u : Tree} (h : tryMapHeads f t = .ok u) : u = mapHeads g t := by
  induction t using tree_induction generalizing u with
  | nil =>
      cases h
      rfl
  | element head children rest ihc ihr =>
      obtain ⟨node, rest', hnode, hrest, rfl⟩ := tryMapHeads_cons_eq_ok_iff.1 h
      obtain ⟨head', children', hhead, hchildren, rfl⟩ := tryMapHeads_element_eq_ok_iff.1 hnode
      rw [hfg head children head' hhead, ihc hchildren, ihr hrest]
      rfl
  | component tag children rest ihc ihr =>
      obtain ⟨node, rest', hnode, hrest, rfl⟩ := tryMapHeads_cons_eq_ok_iff.1 h
      obtain ⟨children', hchildren, rfl⟩ := tryMapHeads_component_eq_ok_iff.1 hnode
      rw [ihc hchildren, ihr hrest]
      rfl
  | text value rest ih =>
      obtain ⟨node, rest', hnode, hrest, rfl⟩ := tryMapHeads_cons_eq_ok_iff.1 h
      cases hnode
      rw [ih hrest]
      rfl

/-- Publishing that succeeds publishes every text that is kept. -/
theorem eq_of_attachRaw {t u : Tree} (h : attachRaw t = .ok u) : u = mapHeads publish t :=
  eq_mapHeads_of_tryMapHeads (fun _ _ _ => eq_publish) h

/-! ## Changes of heads -/

/-- A change of heads that keeps tags, and looks at the children of an element for their text and
for a `code` only. -/
structure Shallow (f : ElementHead → List Node → ElementHead) : Prop where
  keepsTags : KeepsTags f
  congr_view : ∀ head {t u : Tree}, SameView t u → f head t = f head u

/-- The change leaves all elements alone but `pre`. -/
def OnlyPre (f : ElementHead → List Node → ElementHead) : Prop :=
  ∀ head children, head.tag ≠ "pre" → f head children = head

/-- Whether an element is a heading is said by its tag. -/
theorem isHeading_of_tag_eq {head head' : ElementHead} (h : head'.tag = head.tag) :
    head'.isHeading = head.isHeading := by
  rw [ElementHead.isHeading, ElementHead.isHeading, ElementHead.headingLevel?,
    ElementHead.headingLevel?, h]

/-- A heading is neither a `pre` nor a `code`. -/
theorem isHeading_eq_false_of_tag {head : ElementHead} (h : head.tag = "pre" ∨ head.tag = "code") :
    head.isHeading = false := by
  rw [Bool.eq_false_iff]
  intro hh
  rcases h with hpre | hcode
  · exact tag_ne_pre_of_isHeading hh hpre
  · exact tag_ne_code_of_isHeading hh hcode

theorem onlyPre_keepRaw : OnlyPre keepRaw := by
  intro head children hne
  rw [keepRaw, isCodeBlock_eq_false hne]
  rfl

theorem onlyPre_publish : OnlyPre publish := by
  intro head children hne
  rw [publish, isCodeBlock_eq_false hne]
  rfl

theorem shallow_keepRaw : Shallow keepRaw where
  keepsTags := tag_keepRaw
  congr_view head t u h := by rw [keepRaw, keepRaw, h.isCodeBlock_eq rfl, h.content_eq]

theorem shallow_publish : Shallow publish where
  keepsTags head children := by
    rw [publish]
    split
    · exact head.tag_setAttribute? "raw" _
    · rfl
  congr_view head t u h := by rw [publish, publish, h.isCodeBlock_eq rfl]

theorem shallow_giveId : Shallow giveId where
  keepsTags := tag_giveId
  congr_view head t u h := by rw [giveId, giveId, h.content_eq]

/-- A `pre` or a `code` gets no id. -/
theorem giveId_eq_self {head : ElementHead} (h : head.tag = "pre" ∨ head.tag = "code")
    (children : List Node) : giveId head children = head := by
  rw [giveId, isHeading_eq_false_of_tag h]
  rfl

/-- Two shallow changes commute on a tree if they commute on each head. -/
theorem mapHeads_comm {f g : ElementHead → List Node → ElementHead} (hf : Shallow f)
    (hg : Shallow g) (hcomm : ∀ head children, f (g head children) children =
      g (f head children) children) (t : Tree) :
    mapHeads f (mapHeads g t) = mapHeads g (mapHeads f t) := by
  induction t using tree_induction with
  | nil => rfl
  | element head children rest ihc ihr =>
      -- Neither change shows in what the other one sees of the children.
      have hf' := hf.congr_view (g head children)
        (sameShape_mapHeads hg.keepsTags children).sameView
      have hg' := hg.congr_view (f head children)
        (sameShape_mapHeads hf.keepsTags children).sameView
      simp only [mapHeads_element]
      rw [hf', hg', hcomm, ihc, ihr]
  | component tag children rest ihc ihr => simp [ihc, ihr]
  | text value rest ih => simp [ih]

/-- A change of `pre` alone and the giving of ids touch different elements. -/
theorem mapHeads_giveId_comm {f : ElementHead → List Node → ElementHead} (hf : Shallow f)
    (hpre : OnlyPre f) (t : Tree) :
    mapHeads f (mapHeads giveId t) = mapHeads giveId (mapHeads f t) := by
  refine mapHeads_comm hf shallow_giveId (fun head children => ?_) t
  by_cases h : head.tag = "pre"
  · have hkept : (f head children).tag = "pre" := (hf.keepsTags head children).trans h
    rw [giveId_eq_self (Or.inl h), giveId_eq_self (Or.inl hkept)]
  · have hne : (giveId head children).tag ≠ "pre" := by rwa [tag_giveId]
    rw [hpre _ _ hne, hpre _ _ h]

/-! ## Lifting titles -/

/-- The head of a block with a title lifted that was found in its note. -/
def liftNote (found : FoundTitle) (head : ElementHead) : ElementHead :=
  (if found.rest.isEmpty then head.eraseAttribute "data-meta"
    else head.setAttribute "data-meta" (String.ofList found.rest)).setAttribute
      "data-title" (String.ofList found.title)

theorem liftNoteTitle?_eq (head : ElementHead) : liftNoteTitle? head =
    ((head.attribute? "data-meta").bind fun note => findTitle? true note.toList).map
      (liftNote · head) := by
  rw [liftNoteTitle?]
  cases head.attribute? "data-meta" with
  | none => rfl
  | some note => cases h : findTitle? true note.toList <;> simp [h, liftNote]

/-- The change of heads leaves what titles are lifted from, and does not look at what lifting them
changes. -/
structure Untitled (f : ElementHead → List Node → ElementHead) : Prop extends Shallow f where
  code : ∀ head children, head.tag = "code" → f head children = head
  note : ∀ head children, head.tag = "pre" →
    (f head children).attribute? "data-meta" = head.attribute? "data-meta"
  set : ∀ head children, head.tag = "pre" → ∀ name ∈ ["data-meta", "data-title"], ∀ value,
    f (head.setAttribute name value) children = (f head children).setAttribute name value
  erase : ∀ head children, head.tag = "pre" →
    f (head.eraseAttribute "data-meta") children = (f head children).eraseAttribute "data-meta"

/-- What is lifted from a changed head is what is lifted from the head, changed. -/
theorem Untitled.liftNoteTitle? {f : ElementHead → List Node → ElementHead} (hf : Untitled f)
    {head : ElementHead} (hpre : head.tag = "pre") (children : List Node) :
    Folio.liftNoteTitle? (f head children) = (Folio.liftNoteTitle? head).map (f · children) := by
  have hnote : ∀ found, liftNote found (f head children) = f (liftNote found head) children := by
    intro found
    have herased := hf.set (head.eraseAttribute "data-meta") children hpre "data-title" (by simp)
    have hcleaned := hf.set (head.setAttribute "data-meta" (String.ofList found.rest)) children hpre
      "data-title" (by simp)
    rw [liftNote, liftNote]
    split
    · rw [herased, hf.erase head children hpre]
    · rw [hcleaned, hf.set head children hpre "data-meta" (by simp)]
  rw [liftNoteTitle?_eq, liftNoteTitle?_eq, hf.note head children hpre, Option.map_map]
  exact congrArg (Option.map · _) (funext hnote)

/-- A change of the heads of a list of nodes that leaves `code` alone commutes with a change of its
first `code`. -/
theorem mapHeads_mapCodeHead {f : ElementHead → List Node → ElementHead}
    {g : ElementHead → ElementHead} (hf : KeepsTags f)
    (hcode : ∀ head children, head.tag = "code" → f head children = head)
    (hg : ∀ head, (g head).tag = head.tag) (t : Tree) :
    mapHeads f (mapCodeHead g t) = mapCodeHead g (mapHeads f t) := by
  induction t using tree_induction with
  | nil => rfl
  | element head children rest _ ih =>
      rw [mapHeads_element, mapCodeHead_element, mapCodeHead_element, hf]
      by_cases h : head.tag = "code"
      · have hchanged : (g head).tag = "code" := (hg head).trans h
        rw [if_pos h, if_pos h, mapHeads_element, hcode head children h,
          hcode (g head) children hchanged]
      · rw [if_neg h, if_neg h, mapHeads_element, ih]
  | component tag children rest _ ih => simp [ih]
  | text value rest ih => simp [ih]

/-- A change of heads that leaves `code` alone leaves the title that a block's language gives. -/
theorem codeTitle?_mapHeads {f : ElementHead → List Node → ElementHead} (hf : KeepsTags f)
    (hcode : ∀ head children, head.tag = "code" → f head children = head) (t : Tree) :
    codeTitle? (mapHeads f t) = codeTitle? t := by
  rw [codeTitle?, codeTitle?, codeChild?_mapHeads hf]
  cases h : codeChild? t with
  | none => rfl
  | some code =>
      have htag : code.head.tag = "code" := tag_of_codeChild? h
      rw [Option.map_some, hcode code.head code.children htag]
      rfl

/-- A change of heads that leaves titles alone commutes with the lifting of titles. -/
theorem mapHeads_liftTitles {f : ElementHead → List Node → ElementHead} (hf : Untitled f)
    (t : Tree) :
    mapHeads f (liftTitles t) = liftTitles (mapHeads f t) := by
  induction t using tree_induction with
  | nil => rfl
  | component tag children rest ihc ihr => simp [ihc, ihr]
  | text value rest ih => simp [ih]
  | element head children rest ihc ihr =>
      have hlifted := (sameShape_liftTitles children).sameView
      have hchanged := (sameShape_mapHeads hf.keepsTags children).sameView
      have hblock' := hchanged.isCodeBlock_eq (hf.keepsTags head children)
      have hcode' := codeTitle?_mapHeads hf.keepsTags hf.code children
      rw [mapHeads_element]
      rcases title_cases head children with
        ⟨hblock, head', hnote⟩ | ⟨hblock, hnote, language, title, hcode⟩ | huntitled
      · have hnote' := hf.liftNoteTitle? (tag_of_isCodeBlock hblock) children
        rw [hnote, Option.map_some] at hnote'
        rw [liftTitles_of_note hblock hnote, liftTitles_of_note (hblock'.trans hblock) hnote',
          mapHeads_element, hf.congr_view head' hlifted, ihc, ihr]
      · have hnote' := hf.liftNoteTitle? (tag_of_isCodeBlock hblock) children
        rw [hnote, Option.map_none] at hnote'
        -- The language of the block's `code` is changed on both sides, and its text on neither.
        have hview : SameView (mapCodeHead (setLanguage language) (liftTitles children)) children :=
          ((sameShape_mapCodeHead (tag_setLanguage language) _).trans
            (sameShape_liftTitles children)).sameView
        rw [liftTitles_of_language hblock hnote hcode,
          liftTitles_of_language (hblock'.trans hblock) hnote' (hcode'.trans hcode),
          mapHeads_element, hf.congr_view _ hview,
          hf.set head children (tag_of_isCodeBlock hblock) "data-title" (by simp),
          mapHeads_mapCodeHead hf.keepsTags hf.code (tag_setLanguage language), ihc, ihr]
      · have huntitled' : isCodeBlock (f head children) (mapHeads f children) →
            liftNoteTitle? (f head children) = none ∧ codeTitle? (mapHeads f children) = none := by
          intro h
          have hblock := hblock'.symm.trans h
          obtain ⟨hnote, hcode⟩ := huntitled hblock
          rw [hf.liftNoteTitle? (tag_of_isCodeBlock hblock) children, hnote, hcode', hcode]
          exact ⟨rfl, rfl⟩
        rw [liftTitles_of_untitled huntitled, liftTitles_of_untitled huntitled', mapHeads_element,
          hf.congr_view head hlifted, ihc, ihr]

theorem isCodeBlock_setAttribute (head : ElementHead) (name value : String) (children : List Node) :
    isCodeBlock (head.setAttribute name value) children = isCodeBlock head children :=
  rfl

theorem isCodeBlock_eraseAttribute (head : ElementHead) (name : String) (children : List Node) :
    isCodeBlock (head.eraseAttribute name) children = isCodeBlock head children :=
  rfl

theorem untitled_keepRaw : Untitled keepRaw where
  toShallow := shallow_keepRaw
  code head children h := onlyPre_keepRaw head children (by rw [h]; decide)
  note head children _ := by
    rw [keepRaw]
    split <;> rfl
  set head children _ name _ value := by
    rw [keepRaw, keepRaw, isCodeBlock_setAttribute]
    split <;> rfl
  erase head children _ := by
    rw [keepRaw, keepRaw, isCodeBlock_eraseAttribute]
    split <;> rfl

theorem untitled_giveId : Untitled giveId where
  toShallow := shallow_giveId
  code head children h := giveId_eq_self (Or.inr h) children
  note head children h := by rw [giveId_eq_self (Or.inl h)]
  set head children h name _ value := by
    have hset : (head.setAttribute name value).tag = "pre" := h
    rw [giveId_eq_self (Or.inl h), giveId_eq_self (Or.inl hset)]
  erase head children h := by
    have herased : (head.eraseAttribute "data-meta").tag = "pre" := h
    rw [giveId_eq_self (Or.inl h), giveId_eq_self (Or.inl herased)]

theorem ElementHead.setAttribute_comm (head : ElementHead) {first second : String}
    (hne : first ≠ second) (a b : String) : (head.setAttribute first a).setAttribute second b =
      (head.setAttribute second b).setAttribute first a := by
  simp only [setAttribute, head.attributes.insert_comm hne]

theorem ElementHead.eraseAttribute_setAttribute (head : ElementHead) {first second : String}
    (hne : first ≠ second) (a : String) : (head.setAttribute first a).eraseAttribute second =
      (head.eraseAttribute second).setAttribute first a := by
  simp only [setAttribute, eraseAttribute, head.attributes.erase_insert_comm hne]

theorem untitled_publish : Untitled publish where
  toShallow := shallow_publish
  code head children h := onlyPre_publish head children (by rw [h]; decide)
  note head children _ := by
    rw [publish]
    split
    · cases head.data.rawText with
      | none => rfl
      | some raw => exact (head.attribute?_setAttribute "raw" raw _).trans (if_neg (by decide))
    · rfl
  set head children _ name hname value := by
    have hne : name ≠ "raw" := by
      rintro rfl
      simp at hname
    rw [publish, publish, isCodeBlock_setAttribute, ElementHead.data_setAttribute]
    split
    · cases head.data.rawText with
      | none => rfl
      | some raw => exact head.setAttribute_comm hne value raw
    · rfl
  erase head children _ := by
    rw [publish, publish, isCodeBlock_eraseAttribute, ElementHead.data_eraseAttribute]
    split
    · cases head.data.rawText with
      | none => rfl
      | some raw => exact (head.eraseAttribute_setAttribute (by decide) raw).symm
    · rfl

/-! ## Linking headings -/

/-- A pass that goes node by node, leaves anchors alone and adds none, places the link of a heading
alike before and after. -/
theorem map_placeLink {pass : Tree → Tree} (hnil : pass [] = [])
    (happend : ∀ t u, pass (t ++ u) = pass t ++ pass u)
    (hlink : ∀ head children, head.tag = "a" →
      pass [.element head children] = [.element head (pass children)])
    (hanchor : ∀ t, hasAnchor (pass t) = hasAnchor t)
    (link : SelfLink) (href : String) (children linked : List Node) :
    pass (placeLink link href children linked) =
      placeLink link href (pass children) (pass linked) := by
  have hicon : pass [iconAnchor href] = [iconAnchor href] := by
    rw [iconAnchor, hlink _ [] rfl, hnil]
  cases link with
  | wrap =>
      simp only [placeLink, hanchor]
      split
      · rfl
      · exact hlink _ linked rfl
  | prepend =>
      show pass ([iconAnchor href] ++ linked) = [iconAnchor href] ++ pass linked
      rw [happend, hicon]
  | append =>
      show pass (linked ++ [iconAnchor href]) = pass linked ++ [iconAnchor href]
      rw [happend, hicon]
  | off => rfl

theorem mapHeads_placeLink {f : ElementHead → List Node → ElementHead} (hf : Shallow f)
    (hpre : OnlyPre f) (link : SelfLink) (href : String) (children linked : List Node) :
    mapHeads f (placeLink link href children linked) =
      placeLink link href (mapHeads f children) (mapHeads f linked) := by
  refine map_placeLink rfl (mapHeads_append f) (fun head children htag => ?_)
    (fun t => (sameShape_mapHeads hf.keepsTags t).hasAnchor_eq) link href children linked
  rw [mapHeads_element, hpre head children (by rw [htag]; decide)]
  rfl

theorem linkHeadings_mapHeads {f : ElementHead → List Node → ElementHead} (hf : Shallow f)
    (hpre : OnlyPre f) (link : SelfLink) (t : Tree) :
    linkHeadings link (mapHeads f t) = mapHeads f (linkHeadings link t) := by
  induction t using tree_induction with
  | nil => rfl
  | component tag children rest ihc ihr => simp [ihc, ihr]
  | text value rest ih => simp [ih]
  | element head children rest ihc ihr =>
      rw [mapHeads_element, linkHeadings_element, linkHeadings_element, mapHeads_element, ihr]
      by_cases hh : head.isHeading
      · -- A heading is no `pre`, so its head is left alone whatever its children are.
        have hne := tag_ne_pre_of_isHeading hh
        rw [hpre head _ hne, hpre head _ hne]
        cases selfHref? head with
        | none => simp only [Option.elim_none, ihc]
        | some href => simp only [Option.elim_some, mapHeads_placeLink hf hpre, ihc]
      · have hplain : head.isHeading = false := by simpa using hh
        have hplain' : (f head children).isHeading = false := by
          rw [isHeading_of_tag_eq (hf.keepsTags head children), hplain]
        rw [selfHref?_eq_none hplain, selfHref?_eq_none hplain', Option.elim_none, Option.elim_none,
          hf.congr_view head (sameView_linkHeadings link children), ihc]

/-- Linking headings leaves the title that a block's language gives. -/
theorem codeTitle?_linkHeadings (link : SelfLink) (t : Tree) :
    codeTitle? (linkHeadings link t) = codeTitle? t := by
  rw [codeTitle?, codeTitle?, codeChild?_linkHeadings]
  cases codeChild? t <;> rfl

theorem linkHeadings_mapCodeHead {g : ElementHead → ElementHead}
    (hg : ∀ head, (g head).tag = head.tag) (link : SelfLink) (t : Tree) :
    linkHeadings link (mapCodeHead g t) = mapCodeHead g (linkHeadings link t) := by
  induction t using tree_induction with
  | nil => rfl
  | element head children rest _ ih =>
      rw [mapCodeHead_element, linkHeadings_element, mapCodeHead_element]
      by_cases h : head.tag = "code"
      · have hchanged : (g head).tag = "code" := (hg head).trans h
        have hplain := selfHref?_eq_none (isHeading_eq_false_of_tag (Or.inr h))
        have hplain' := selfHref?_eq_none (isHeading_eq_false_of_tag (Or.inr hchanged))
        rw [if_pos h, if_pos h, linkHeadings_element, hplain, hplain']
      · rw [if_neg h, if_neg h, linkHeadings_element, ih]
  | component tag children rest _ ih => simp [ih]
  | text value rest ih => simp [ih]

theorem liftTitles_placeLink (link : SelfLink) (href : String) (children linked : List Node) :
    liftTitles (placeLink link href children linked) =
      placeLink link href (liftTitles children) (liftTitles linked) := by
  refine map_placeLink rfl liftTitles_append (fun head children htag => ?_)
    (fun t => (sameShape_liftTitles t).hasAnchor_eq) link href children linked
  refine liftTitles_of_untitled (fun h => ?_) []
  rw [tag_of_isCodeBlock h] at htag
  exact absurd htag (by decide)

theorem linkHeadings_liftTitles (link : SelfLink) (t : Tree) :
    linkHeadings link (liftTitles t) = liftTitles (linkHeadings link t) := by
  induction t using tree_induction with
  | nil => rfl
  | component tag children rest ihc ihr => simp [ihc, ihr]
  | text value rest ih => simp [ih]
  | element head children rest ihc ihr =>
      have hblock' : isCodeBlock head (linkHeadings link children) = isCodeBlock head children :=
        (sameView_linkHeadings link children).isCodeBlock_eq rfl
      have hcode' := codeTitle?_linkHeadings link children
      have hpre {head' : ElementHead} (h : head'.tag = "pre") : selfHref? head' = none :=
        selfHref?_eq_none (isHeading_eq_false_of_tag (Or.inl h))
      rcases title_cases head children with
        ⟨hblock, head', hnote⟩ | ⟨hblock, hnote, language, title, hcode⟩ | huntitled
      · have htag := tag_of_isCodeBlock hblock
        have htag' := (tag_of_liftNoteTitle? hnote).trans htag
        rw [liftTitles_of_note hblock hnote, linkHeadings_element, linkHeadings_element, hpre htag,
          hpre htag', Option.elim_none, Option.elim_none,
          liftTitles_of_note (hblock'.trans hblock) hnote, ihc, ihr]
      · have htag := tag_of_isCodeBlock hblock
        have htag' : (head.setAttribute "data-title" (String.ofList title)).tag = "pre" := htag
        rw [liftTitles_of_language hblock hnote hcode, linkHeadings_element, linkHeadings_element,
          hpre htag, hpre htag', Option.elim_none, Option.elim_none,
          liftTitles_of_language (hblock'.trans hblock) hnote (hcode'.trans hcode),
          linkHeadings_mapCodeHead (tag_setLanguage language), ihc, ihr]
      · rw [liftTitles_of_untitled huntitled, linkHeadings_element, linkHeadings_element]
        cases hhref : selfHref? head with
        | none =>
            rw [Option.elim_none, Option.elim_none, liftTitles_of_untitled, ihc, ihr]
            intro h
            rw [hcode']
            exact huntitled (hblock'.symm.trans h)
        | some href =>
            rw [Option.elim_some, Option.elim_some, liftTitles_of_untitled, liftTitles_placeLink,
              ihc, ihr]
            intro h
            rw [selfHref?, isHeading_eq_false_of_tag (Or.inl (tag_of_isCodeBlock h))] at hhref
            cases hhref

end Folio
