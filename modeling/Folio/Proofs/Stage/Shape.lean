import Folio.Proofs.Stage.Step

/-!
# What stages leave of a tree's shape

Stages look at the children of an element for few things: their text, whether one of them is a
`code`, and whether there is an anchor among them.  A stage that changes heads but no tags changes
none of this, nor which components there are.  The links of headings add anchors, and keep the rest.
-/

namespace Folio

@[simp] theorem ElementHead.tag_ofTag (tag : String) : (ElementHead.ofTag tag).tag = tag := rfl

/-! ## Texts and anchors -/

section

variable (head : ElementHead) (tag : ComponentHead) (value : String) (children rest : List Node)

@[simp] theorem content_nil : content [] = "" := rfl

@[simp] theorem content_element :
    content (.element head children :: rest) = content children ++ content rest := rfl

@[simp] theorem content_component :
    content (.component tag children :: rest) = content children ++ content rest := rfl

@[simp] theorem content_text : content (.text value :: rest) = value ++ content rest := rfl

@[simp] theorem hasAnchor_nil : hasAnchor [] = false := rfl

@[simp] theorem hasAnchor_element : hasAnchor (.element head children :: rest) =
    (head.tag == "a" || hasAnchor children || hasAnchor rest) := rfl

@[simp] theorem hasAnchor_component : hasAnchor (.component tag children :: rest) =
    (hasAnchor children || hasAnchor rest) := rfl

@[simp] theorem hasAnchor_text : hasAnchor (.text value :: rest) = hasAnchor rest := rfl

end

theorem content_append (t u : Tree) : content (t ++ u) = content t ++ content u := by
  induction t with
  | nil => simp
  | cons node t ih => cases node <;> simp [ih, String.append_assoc]

/-! ## Changes of the first node -/

section

variable (f : ElementHead → List Node → ElementHead) (g : ElementHead → ElementHead)
  (head : ElementHead) (tag : ComponentHead) (value : String) (children rest : List Node)

@[simp] theorem mapHeads_nil : mapHeads f [] = [] := rfl

@[simp] theorem mapHeads_element : mapHeads f (.element head children :: rest) =
    .element (f head children) (mapHeads f children) :: mapHeads f rest := rfl

@[simp] theorem mapHeads_component : mapHeads f (.component tag children :: rest) =
    .component tag (mapHeads f children) :: mapHeads f rest := rfl

@[simp] theorem mapHeads_text :
    mapHeads f (.text value :: rest) = .text value :: mapHeads f rest := rfl

@[simp] theorem mapCodeHead_nil : mapCodeHead g [] = [] := rfl

theorem mapCodeHead_element : mapCodeHead g (.element head children :: rest) =
    if head.tag = "code" then .element (g head) children :: rest
    else .element head children :: mapCodeHead g rest := rfl

@[simp] theorem mapCodeHead_component : mapCodeHead g (.component tag children :: rest) =
    .component tag children :: mapCodeHead g rest := rfl

@[simp] theorem mapCodeHead_text :
    mapCodeHead g (.text value :: rest) = .text value :: mapCodeHead g rest := rfl

@[simp] theorem liftTitles_nil : liftTitles [] = [] := rfl

@[simp] theorem liftTitles_component : liftTitles (.component tag children :: rest) =
    .component tag (liftTitles children) :: liftTitles rest := rfl

@[simp] theorem liftTitles_text :
    liftTitles (.text value :: rest) = .text value :: liftTitles rest := rfl

end

section

variable {head head' : ElementHead} {children : List Node} {language title : List Char}

/-- A block whose note has a title. -/
theorem liftTitles_of_note (hblock : isCodeBlock head children)
    (hnote : liftNoteTitle? head = some head') (rest : List Node) :
    liftTitles (.element head children :: rest) =
      .element head' (liftTitles children) :: liftTitles rest := by
  show (Node.element head children).liftTitles :: liftTitles rest = _
  simp only [Node.liftTitles, if_pos hblock, hnote]

/-- A block whose language has a title. -/
theorem liftTitles_of_language (hblock : isCodeBlock head children)
    (hnote : liftNoteTitle? head = none) (hcode : codeTitle? children = some (language, title))
    (rest : List Node) : liftTitles (.element head children :: rest) =
      .element (head.setAttribute "data-title" (String.ofList title))
        (mapCodeHead (setLanguage language) (liftTitles children)) :: liftTitles rest := by
  show (Node.element head children).liftTitles :: liftTitles rest = _
  simp only [Node.liftTitles, if_pos hblock, hnote, hcode]

/-- An element that is no block with a title. -/
theorem liftTitles_of_untitled
    (h : isCodeBlock head children → liftNoteTitle? head = none ∧ codeTitle? children = none)
    (rest : List Node) : liftTitles (.element head children :: rest) =
      .element head (liftTitles children) :: liftTitles rest := by
  show (Node.element head children).liftTitles :: liftTitles rest = _
  by_cases hblock : isCodeBlock head children
  · obtain ⟨hnote, hcode⟩ := h hblock
    simp only [Node.liftTitles, if_pos hblock, hnote, hcode]
  · simp only [Node.liftTitles, if_neg hblock]

end

/-! ## Node by node -/

theorem mapHeads_append (f : ElementHead → List Node → ElementHead) (t u : Tree) :
    mapHeads f (t ++ u) = mapHeads f t ++ mapHeads f u := by
  induction t with
  | nil => rfl
  | cons node t ih => exact congrArg (node.mapHeads f :: ·) ih

theorem liftTitles_append (t u : Tree) : liftTitles (t ++ u) = liftTitles t ++ liftTitles u := by
  induction t with
  | nil => rfl
  | cons node t ih => exact congrArg (node.liftTitles :: ·) ih

/-- Where the title of an element comes from, if it is a block with one. -/
theorem title_cases (head : ElementHead) (children : List Node) :
    (isCodeBlock head children ∧ ∃ head', liftNoteTitle? head = some head') ∨
      (isCodeBlock head children ∧ liftNoteTitle? head = none ∧
        ∃ language title, codeTitle? children = some (language, title)) ∨
      (isCodeBlock head children → liftNoteTitle? head = none ∧ codeTitle? children = none) := by
  by_cases hblock : isCodeBlock head children
  · cases hnote : liftNoteTitle? head with
    | some head' => exact Or.inl ⟨hblock, head', rfl⟩
    | none =>
        cases hcode : codeTitle? children with
        | some found => exact Or.inr (Or.inl ⟨hblock, rfl, found.1, found.2, rfl⟩)
        | none => exact Or.inr (Or.inr fun _ => ⟨rfl, rfl⟩)
  · exact Or.inr (Or.inr fun h => (hblock h).elim)

/-! ## Shapes -/

/-- A tree with nothing but the tags of its elements. -/
def tagsOnly (t : Tree) : Tree :=
  mapHeads (fun head _ => .ofTag head.tag) t

/-- Two trees that differ at most in what their elements say about themselves besides their tags. -/
def SameShape (t u : Tree) : Prop :=
  tagsOnly t = tagsOnly u

section

variable (head : ElementHead) (tag : ComponentHead) (value : String) (children rest : List Node)

@[simp] theorem tagsOnly_nil : tagsOnly [] = [] := rfl

@[simp] theorem tagsOnly_element : tagsOnly (.element head children :: rest) =
    .element (.ofTag head.tag) (tagsOnly children) :: tagsOnly rest := rfl

@[simp] theorem tagsOnly_component : tagsOnly (.component tag children :: rest) =
    .component tag (tagsOnly children) :: tagsOnly rest := rfl

@[simp] theorem tagsOnly_text : tagsOnly (.text value :: rest) = .text value :: tagsOnly rest := rfl

end

theorem content_tagsOnly (t : Tree) : content (tagsOnly t) = content t := by
  induction t using tree_induction with
  | nil => rfl
  | element head children rest ihc ihr => simp [ihc, ihr]
  | component tag children rest ihc ihr => simp [ihc, ihr]
  | text value rest ih => simp [ih]

theorem hasAnchor_tagsOnly (t : Tree) : hasAnchor (tagsOnly t) = hasAnchor t := by
  induction t using tree_induction with
  | nil => rfl
  | element head children rest ihc ihr => simp [ihc, ihr]
  | component tag children rest ihc ihr => simp [ihc, ihr]
  | text value rest ih => simp [ih]

theorem unresolvedIn?_tagsOnly (registry : Registry) (t : Tree) :
    unresolvedIn? registry (tagsOnly t) = unresolvedIn? registry t := by
  induction t using tree_induction with
  | nil => rfl
  | element head children rest ihc ihr => simp [ihc, ihr]
  | component tag children rest ihc ihr => simp [ihc, ihr]
  | text value rest ih => simp [ih]

theorem isSome_codeChild?_tagsOnly (t : Tree) :
    (codeChild? (tagsOnly t)).isSome = (codeChild? t).isSome := by
  induction t using tree_induction with
  | nil => rfl
  | element head children rest _ ih =>
      rw [tagsOnly_element, codeChild?_element, codeChild?_element, ElementHead.tag_ofTag]
      by_cases hcode : head.tag = "code"
      · rw [if_pos hcode, if_pos hcode]
        rfl
      · rw [if_neg hcode, if_neg hcode, ih]
  | component tag children rest _ ih => exact ih
  | text value rest ih => exact ih

/-- What most stages see of the children of an element: their text, and whether there is a `code`
among them. -/
structure SameView (t u : Tree) : Prop where
  content_eq : content t = content u
  isSome_codeChild?_eq : (codeChild? t).isSome = (codeChild? u).isSome

/-- A code block is a `pre`. -/
theorem tag_of_isCodeBlock {head : ElementHead} {children : List Node}
    (h : isCodeBlock head children) : head.tag = "pre" := by
  by_contra hne
  rw [isCodeBlock_eq_false hne] at h
  cases h

theorem SameView.isCodeBlock_eq {t u : Tree} (h : SameView t u) {head head' : ElementHead}
    (htag : head.tag = head'.tag) : isCodeBlock head t = isCodeBlock head' u := by
  rw [isCodeBlock, isCodeBlock, htag, h.isSome_codeChild?_eq]

namespace SameShape

variable {t u v : Tree}

theorem trans (h : SameShape t u) (h' : SameShape u v) : SameShape t v :=
  Eq.trans h h'

theorem sameView (h : SameShape t u) : SameView t u where
  content_eq := by rw [← content_tagsOnly t, h, content_tagsOnly]
  isSome_codeChild?_eq := by rw [← isSome_codeChild?_tagsOnly t, h, isSome_codeChild?_tagsOnly]

theorem hasAnchor_eq (h : SameShape t u) : hasAnchor t = hasAnchor u := by
  rw [← hasAnchor_tagsOnly t, h, hasAnchor_tagsOnly]

theorem unresolvedIn?_eq (h : SameShape t u) (registry : Registry) :
    unresolvedIn? registry t = unresolvedIn? registry u := by
  rw [← unresolvedIn?_tagsOnly registry t, h, unresolvedIn?_tagsOnly]

end SameShape

/-! ## Changing heads -/

/-- A change of heads that leaves tags alone. -/
def KeepsTags (f : ElementHead → List Node → ElementHead) : Prop :=
  ∀ head children, (f head children).tag = head.tag

theorem sameShape_mapHeads {f : ElementHead → List Node → ElementHead} (hf : KeepsTags f)
    (t : Tree) :
    SameShape (mapHeads f t) t := by
  unfold SameShape
  induction t using tree_induction with
  | nil => rfl
  | element head children rest ihc ihr => simp [hf head children, ihc, ihr]
  | component tag children rest ihc ihr => simp [ihc, ihr]
  | text value rest ih => simp [ih]

/-- The elements of a tree whose heads were changed. -/
theorem elements_mapHeads (f : ElementHead → List Node → ElementHead) (t : Tree) :
    elements (mapHeads f t) =
      (elements t).map fun e => ⟨f e.head e.children, mapHeads f e.children⟩ := by
  induction t using tree_induction with
  | nil => rfl
  | element head children rest ihc ihr => simp [ihc, ihr]
  | component tag children rest ihc ihr => simp [ihc, ihr]
  | text value rest ih => simpa using ih

/-- The first `code` of a list of nodes is one. -/
theorem tag_of_codeChild? {t : Tree} {code : Element} (h : codeChild? t = some code) :
    code.head.tag = "code" := by
  induction t using tree_induction with
  | nil => cases h
  | element head children rest _ ih =>
      rw [codeChild?_element] at h
      by_cases hcode : head.tag = "code"
      · rw [if_pos hcode] at h
        cases h
        exact hcode
      · rw [if_neg hcode] at h
        exact ih h
  | component tag children rest _ ih => exact ih h
  | text value rest ih => exact ih h

/-- The `code` of a list of nodes whose heads were changed. -/
theorem codeChild?_mapHeads {f : ElementHead → List Node → ElementHead} (hf : KeepsTags f)
    (t : Tree) : codeChild? (mapHeads f t) =
      (codeChild? t).map fun code => ⟨f code.head code.children, mapHeads f code.children⟩ := by
  induction t using tree_induction with
  | nil => rfl
  | element head children rest _ ih =>
      rw [mapHeads_element, codeChild?_element, codeChild?_element, hf]
      by_cases hcode : head.tag = "code"
      · rw [if_pos hcode, if_pos hcode]
        rfl
      · rw [if_neg hcode, if_neg hcode, ih]
  | component tag children rest _ ih => exact ih
  | text value rest ih => exact ih

/-! ## Lifting titles -/

theorem sameShape_mapCodeHead {g : ElementHead → ElementHead} (hg : ∀ head, (g head).tag = head.tag)
    (t : Tree) : SameShape (mapCodeHead g t) t := by
  unfold SameShape
  induction t using tree_induction with
  | nil => rfl
  | element head children rest _ ih =>
      rw [mapCodeHead_element]
      by_cases hcode : head.tag = "code"
      · rw [if_pos hcode, tagsOnly_element, hg, tagsOnly_element]
      · rw [if_neg hcode, tagsOnly_element, ih, tagsOnly_element]
  | component tag children rest _ ih => simp [ih]
  | text value rest ih => simp [ih]

theorem tag_setLanguage (language : List Char) (head : ElementHead) :
    (setLanguage language head).tag = head.tag := rfl

theorem tag_of_liftNoteTitle? {head head' : ElementHead} (h : liftNoteTitle? head = some head') :
    head'.tag = head.tag :=
  (liftNoteTitle?_eq_some (e := ⟨head, []⟩) h).1

theorem sameShape_liftTitles (t : Tree) : SameShape (liftTitles t) t := by
  unfold SameShape
  induction t using tree_induction with
  | nil => rfl
  | component tag children rest ihc ihr => simp [ihc, ihr]
  | text value rest ih => simp [ih]
  | element head children rest ihc ihr =>
      rcases title_cases head children with
        ⟨hblock, head', hnote⟩ | ⟨hblock, hnote, language, title, hcode⟩ | huntitled
      · rw [liftTitles_of_note hblock hnote, tagsOnly_element, tagsOnly_element, ihc, ihr,
          tag_of_liftNoteTitle? hnote]
      · have hcodeHead : tagsOnly (mapCodeHead (setLanguage language) (liftTitles children)) =
            tagsOnly (liftTitles children) := sameShape_mapCodeHead (tag_setLanguage language) _
        rw [liftTitles_of_language hblock hnote hcode, tagsOnly_element, tagsOnly_element,
          hcodeHead, ihc, ihr, ElementHead.tag_setAttribute]
      · rw [liftTitles_of_untitled huntitled, tagsOnly_element, tagsOnly_element, ihc, ihr]

/-! ## Linking headings -/

section

variable (link : SelfLink)

/-- A heading's link has no text of its own. -/
theorem content_placeLink (href : String) (children linked : List Node) :
    content (placeLink link href children linked) = content linked := by
  have hicon : content [iconAnchor href] = "" := rfl
  have hwrap : content [wrapAnchor href linked] = content linked := by
    rw [wrapAnchor, content_element, content_nil, String.append_empty]
  rcases placeLink_cases link href children linked with h | h | h | h
  · rw [h]
  · rw [h, hwrap]
  · rw [h, content_append, hicon, String.empty_append]
  · rw [h, content_append, hicon, String.append_empty]

theorem linkHeadings_element (head : ElementHead) (children rest : List Node) :
    linkHeadings link (.element head children :: rest) =
      .element head ((selfHref? head).elim (linkHeadings link children) fun href =>
        placeLink link href children (linkHeadings link children)) :: linkHeadings link rest := by
  show (Node.element head children).linkHeadings link :: linkHeadings link rest = _
  rw [Node.linkHeadings]
  cases selfHref? head with
  | none => rfl
  | some href => rfl

@[simp] theorem linkHeadings_nil : linkHeadings link [] = [] := rfl

@[simp] theorem linkHeadings_component (tag : ComponentHead) (children rest : List Node) :
    linkHeadings link (.component tag children :: rest) =
      .component tag (linkHeadings link children) :: linkHeadings link rest := rfl

@[simp] theorem linkHeadings_text (value : String) (rest : List Node) :
    linkHeadings link (.text value :: rest) = .text value :: linkHeadings link rest := rfl

theorem content_linkHeadings (t : Tree) : content (linkHeadings link t) = content t := by
  induction t using tree_induction with
  | nil => rfl
  | element head children rest ihc ihr =>
      rw [linkHeadings_element, content_element, content_element, ihr]
      cases selfHref? head with
      | none => rw [Option.elim_none, ihc]
      | some href => rw [Option.elim_some, content_placeLink, ihc]
  | component tag children rest ihc ihr => simp [ihc, ihr]
  | text value rest ih => simp [ih]

/-- Linking adds and drops no component. -/
theorem unresolvedIn?_linkHeadings (registry : Registry) (t : Tree) :
    unresolvedIn? registry (linkHeadings link t) = unresolvedIn? registry t := by
  induction t using tree_induction with
  | nil => rfl
  | element head children rest ihc ihr =>
      rw [linkHeadings_element, unresolvedIn?_element, unresolvedIn?_element, ihr]
      cases selfHref? head with
      | none => rw [Option.elim_none, ihc]
      | some href => rw [Option.elim_some, unresolvedIn?_placeLink, ihc]
  | component tag children rest ihc ihr => simp [ihc, ihr]
  | text value rest ih => simp [ih]

/-- A heading without an address stays as it is, and so does an element that is no heading. -/
theorem selfHref?_eq_none {head : ElementHead} (h : head.isHeading = false) :
    selfHref? head = none := by
  rw [selfHref?, h]
  rfl

/-- The `code` of a list of nodes whose headings were linked. -/
theorem codeChild?_linkHeadings (t : Tree) : codeChild? (linkHeadings link t) =
    (codeChild? t).map fun code => ⟨code.head, linkHeadings link code.children⟩ := by
  induction t using tree_induction with
  | nil => rfl
  | element head children rest _ ih =>
      rw [linkHeadings_element, codeChild?_element, codeChild?_element]
      by_cases hcode : head.tag = "code"
      · have hplain : head.isHeading = false := by
          rw [Bool.eq_false_iff]
          intro hh
          exact tag_ne_code_of_isHeading hh hcode
        rw [if_pos hcode, if_pos hcode, selfHref?_eq_none hplain]
        rfl
      · rw [if_neg hcode, if_neg hcode, ih]
  | component tag children rest _ ih => exact ih
  | text value rest ih => exact ih

theorem sameView_linkHeadings (t : Tree) : SameView (linkHeadings link t) t where
  content_eq := content_linkHeadings link t
  isSome_codeChild?_eq := by rw [codeChild?_linkHeadings, Option.isSome_map]

end

end Folio
