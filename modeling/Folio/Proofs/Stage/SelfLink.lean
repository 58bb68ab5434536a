import Folio.Proofs.Stage.Anchor
import Folio.Proofs.Tree.Growth

/-!
# The links of headings

Linking headings moves their children and puts anchors among them, at every depth: headings stand
inside other headings, components, lists and blocks of code.  Readers of the tree notice nothing of
it.  The text, the outline and what is seen of the code blocks stay as they are, since an anchor is
none of what they look for and has no text of its own.  All that a tree gains is a link for each
heading with an id, next to its children or around them; without these links it is the tree it was.
-/

namespace Folio

/-! ## The children of a linked element -/

/-- The children of an element once the headings among them are linked, and the element itself if it
is one. -/
def linkedChildren (link : SelfLink) (head : ElementHead) (children : List Node) : List Node :=
  (selfHref? head).elim (linkHeadings link children) fun href =>
    placeLink link href children (linkHeadings link children)

theorem linkHeadings_eq_linkedChildren (link : SelfLink) (head : ElementHead)
    (children rest : List Node) : linkHeadings link (.element head children :: rest) =
      .element head (linkedChildren link head children) :: linkHeadings link rest :=
  linkHeadings_element link head children rest

section

variable (link : SelfLink) {head : ElementHead} {id : String}

theorem selfHref?_eq_some (hh : head.isHeading) (hid : head.attribute? "id" = some id) :
    selfHref? head = some ("#" ++ id) := by
  rw [selfHref?, if_pos hh, hid]
  rfl

/-- A heading without an id is not linked, and neither is any other element. -/
theorem linkedChildren_of_plain (h : head.isHeading → head.attribute? "id" = none)
    (children : List Node) : linkedChildren link head children = linkHeadings link children := by
  have hnone : selfHref? head = none := by
    by_cases hh : head.isHeading
    · rw [selfHref?, if_pos hh, h hh]
      rfl
    · exact selfHref?_eq_none (by simpa using hh)
  rw [linkedChildren, hnone]
  rfl

theorem linkedChildren_of_heading (hh : head.isHeading) (hid : head.attribute? "id" = some id)
    (children : List Node) : linkedChildren link head children =
      placeLink link ("#" ++ id) children (linkHeadings link children) := by
  rw [linkedChildren, selfHref?_eq_some hh hid]
  rfl

theorem content_linkedChildren (head : ElementHead) (children : List Node) :
    content (linkedChildren link head children) = content children := by
  unfold linkedChildren
  cases selfHref? head with
  | none => exact content_linkHeadings link children
  | some href => exact (content_placeLink link href children _).trans (content_linkHeadings link _)

end

/-! ## A walk that changes children -/

/-- A walk that changes the children of each element before it goes down to them. -/
inductive Visits (change : ElementHead → List Node → List Node) : List Node → List Node → Prop
  | nil : Visits change [] []
  | text (value : String) {rest rest' : List Node} :
      Visits change rest rest' → Visits change (.text value :: rest) (.text value :: rest')
  | component (tag : ComponentHead) {children children' rest rest' : List Node} :
      Visits change children children' → Visits change rest rest' →
      Visits change (.component tag children :: rest) (.component tag children' :: rest')
  | element (head : ElementHead) {children children' rest rest' : List Node} :
      Visits change (change head children) children' → Visits change rest rest' →
      Visits change (.element head children :: rest) (.element head children' :: rest')

/-- The children a heading has after its own link is placed, and before those of the headings among
them are. -/
def placeOwnLink (link : SelfLink) (head : ElementHead) (children : List Node) : List Node :=
  (selfHref? head).elim children fun href => placeLink link href children children

theorem Visits.append {change : ElementHead → List Node → List Node} {t t' u u' : List Node}
    (ht : Visits change t t') (hu : Visits change u u') : Visits change (t ++ u) (t' ++ u') := by
  induction ht with
  | nil => exact hu
  | text value _ ih => exact .text value ih
  | component tag hc _ _ ih => exact .component tag hc ih
  | element head hc _ _ ih => exact .element head hc ih

/-- The walk passes the link of a heading, which is no heading, and goes on below it. -/
theorem visits_placeLink (link : SelfLink) (href : String) (children : List Node)
    {nodes linked : List Node} (h : Visits (placeOwnLink link) nodes linked) :
    Visits (placeOwnLink link) (placeLink link href children nodes)
      (placeLink link href children linked) := by
  -- An anchor is no heading, so visiting it changes nothing, and an icon has nothing below it.
  have hicon : Visits (placeOwnLink link) [iconAnchor href] [iconAnchor href] :=
    .element _ .nil .nil
  cases link with
  | off => exact h
  | prepend => exact hicon.append h
  | append => exact h.append hicon
  | wrap =>
      by_cases hhas : hasAnchor children
      · simpa only [placeLink, if_pos hhas] using h
      · simp only [placeLink, if_neg hhas]
        exact .element _ h .nil

/-- Linking headings from the inside out is the walk that links a heading, looking at the children
it has by then, and goes down to its children where they are now. -/
theorem visits_linkHeadings (link : SelfLink) (t : Tree) :
    Visits (placeOwnLink link) t (linkHeadings link t) := by
  induction t using tree_induction with
  | nil => exact .nil
  | text value rest ih => exact .text value ih
  | component tag children rest ihc ihr => exact .component tag ihc ihr
  | element head children rest ihc ihr =>
      rw [linkHeadings_element]
      refine .element head ?_ ihr
      unfold placeOwnLink
      cases selfHref? head with
      | none => exact ihc
      | some href => exact visits_placeLink link href children ihc

/-! ## What readers see -/

/-- What readers see of a code block, with nothing but the text of its body. -/
def CodeBlock.plain (block : CodeBlock) :
    Option String × Option String × Option String × String :=
  (block.language, block.title, block.raw, content block.body)

/-- Two trees have the same text, the same outline and code blocks that look the same. -/
structure ReadsLike (t u : Tree) : Prop where
  content_eq : content t = content u
  treeOutline_eq : treeOutline t = treeOutline u
  codeBlocks_eq : (codeBlocks t).map CodeBlock.plain = (codeBlocks u).map CodeBlock.plain

/-- What is not read off anchors, and read off an element as well after it was linked, is read off a
tree as well after its headings were linked. -/
theorem readings_linkHeadings {α : Type} {f : Element → Option α} (link : SelfLink)
    (ha : ∀ e : Element, e.head.tag = "a" → f e = none)
    (hkept : ∀ head children, f ⟨head, linkedChildren link head children⟩ = f ⟨head, children⟩)
    (t : Tree) : readings f (linkHeadings link t) = readings f t := by
  induction t using tree_induction with
  | nil => rfl
  | component tag children rest ihc ihr => simp [ihc, ihr]
  | text value rest ih => simp [ih]
  | element head children rest ihc ihr =>
      have hchildren : readings f (linkedChildren link head children) = readings f children := by
        unfold linkedChildren
        cases selfHref? head with
        | none => exact ihc
        | some href => exact (readings_placeLink ha link href children _).trans ihc
      rw [linkHeadings_eq_linkedChildren, readings_element, readings_element, hkept, hchildren, ihr]

theorem treeOutline_linkHeadings (link : SelfLink) (t : Tree) :
    treeOutline (linkHeadings link t) = treeOutline t := by
  refine readings_linkHeadings link
    (fun e htag => heading?_eq_none (isHeading_eq_false_of_tag_eq htag (by decide))) ?_ t
  exact fun head children => heading?_congr rfl rfl (content_linkedChildren link head children)

/-- Only a `pre` is seen as a code block. -/
theorem codeBlock?_eq_none {e : Element} (h : e.head.tag ≠ "pre") : codeBlock? e = none := by
  rw [codeBlock?, if_neg h]

/-- A code block is no heading, so it is not linked itself; its `code` stays where it is, and the
text of that with it. -/
theorem plain_codeBlock?_linkedChildren (link : SelfLink) (head : ElementHead)
    (children : List Node) :
    (codeBlock? ⟨head, linkedChildren link head children⟩).map CodeBlock.plain =
      (codeBlock? ⟨head, children⟩).map CodeBlock.plain := by
  by_cases hpre : head.tag = "pre"
  · have hplain : head.isHeading = false := isHeading_eq_false_of_tag (Or.inl hpre)
    rw [linkedChildren_of_plain link (fun hh => by rw [hplain] at hh; cases hh), codeBlock?,
      codeBlock?, if_pos hpre, if_pos hpre, codeChild?_linkHeadings]
    cases codeChild? children with
    | none => rfl
    | some code =>
        simp only [Option.map_some, CodeBlock.plain, content_linkHeadings]
  · rw [codeBlock?_eq_none hpre, codeBlock?_eq_none hpre]

theorem plain_codeBlocks_linkHeadings (link : SelfLink) (t : Tree) :
    (codeBlocks (linkHeadings link t)).map CodeBlock.plain =
      (codeBlocks t).map CodeBlock.plain := by
  -- What is seen of the blocks is one more reading of the elements.
  have hread : ∀ u : Tree, (codeBlocks u).map CodeBlock.plain =
      readings (fun e => (codeBlock? e).map CodeBlock.plain) u := fun u =>
    List.map_filterMap ..
  rw [hread, hread]
  refine readings_linkHeadings link (fun e htag => ?_) (plain_codeBlock?_linkedChildren link) t
  have hne : e.head.tag ≠ "pre" := by
    rw [htag]
    decide
  rw [codeBlock?_eq_none hne]
  rfl

theorem readsLike_linkHeadings (link : SelfLink) (t : Tree) :
    ReadsLike (linkHeadings link t) t where
  content_eq := content_linkHeadings link t
  treeOutline_eq := treeOutline_linkHeadings link t
  codeBlocks_eq := plain_codeBlocks_linkHeadings link t

/-! ## What a tree gains -/

/-- An anchor that leads to an id. -/
structure LeadsTo (anchor : ElementHead) (id : String) : Prop where
  tag_eq : anchor.tag = "a"
  href_eq : anchor.attribute? "href" = some ("#" ++ id)

/-- The children of a heading with its link, from those it has without: a link in front of them or
behind them holds nothing, and one around them is put there unless there is an anchor among what the
heading held. -/
inductive LinkPlaced (id : String) (own : List Growth) : SelfLink → List Growth → Prop
  | prepend {anchor : ElementHead} :
      LeadsTo anchor id → LinkPlaced id own .prepend (.added anchor [] :: own)
  | append {anchor : ElementHead} :
      LeadsTo anchor id → LinkPlaced id own .append (own ++ [.added anchor []])
  | wrap {anchor : ElementHead} : AnchorFree (original own) →
      LeadsTo anchor id → LinkPlaced id own .wrap [.added anchor own]
  | guarded : ¬AnchorFree (original own) → LinkPlaced id own .wrap own
  | off : LinkPlaced id own .off own

/-- Nothing was added but the links of headings with an id, each among the children of its
heading. -/
inductive LinksOnly (link : SelfLink) : List Growth → Prop
  | nil : LinksOnly link []
  | text (value : String) {rest : List Growth} :
      LinksOnly link rest → LinksOnly link (.text value :: rest)
  | component (tag : ComponentHead) {children rest : List Growth} :
      LinksOnly link children → LinksOnly link rest →
      LinksOnly link (.component tag children :: rest)
  | element {head : ElementHead} {children rest : List Growth} :
      (head.isHeading → head.attribute? "id" = none) →
      LinksOnly link children → LinksOnly link rest →
      LinksOnly link (.element head children :: rest)
  | heading {head : ElementHead} {id : String} {own children rest : List Growth} :
      head.isHeading → head.attribute? "id" = some id →
      LinksOnly link own → LinkPlaced id own link children → LinksOnly link rest →
      LinksOnly link (.element head children :: rest)

/-- An element gets a link: it is a heading with an id, and it holds no anchor if the link is to go
around its content. -/
def GetsLink (link : SelfLink) (e : Element) : Prop :=
  link ≠ .off ∧ e.head.isHeading ∧ (e.head.attribute? "id").isSome ∧
    (link = .wrap → AnchorFree e.children)

instance (link : SelfLink) (e : Element) : Decidable (GetsLink link e) :=
  inferInstanceAs (Decidable (_ ∧ _ ∧ _ ∧ (_ → _)))

section

variable {link : SelfLink} {id : String} {own children growth : List Growth}

theorem leadsTo_iconAnchor (id : String) :
    ∃ anchor, LeadsTo anchor id ∧ iconAnchor ("#" ++ id) = .element anchor [] := by
  refine ⟨_, ⟨rfl, ?_⟩, rfl⟩
  simp [ElementHead.attribute?_setAttribute]

theorem leadsTo_wrapAnchor (id : String) (nodes : List Node) :
    ∃ anchor, LeadsTo anchor id ∧ wrapAnchor ("#" ++ id) nodes = .element anchor nodes := by
  refine ⟨_, ⟨rfl, ?_⟩, rfl⟩
  simp [ElementHead.attribute?_setAttribute]

/-- The link of a heading is placed among the children that grew. -/
theorem exists_linkPlaced (link : SelfLink) (id : String) (own : List Growth) :
    ∃ children, LinkPlaced id own link children ∧ original children = original own ∧
      grown children = placeLink link ("#" ++ id) (original own) (grown own) := by
  obtain ⟨icon, hicon, hiconEq⟩ := leadsTo_iconAnchor id
  obtain ⟨around, haround, haroundEq⟩ := leadsTo_wrapAnchor id (grown own)
  cases link with
  | off => exact ⟨own, .off, rfl, rfl⟩
  | prepend =>
      refine ⟨.added icon [] :: own, .prepend hicon, rfl, ?_⟩
      rw [placeLink, hiconEq]
      rfl
  | append =>
      refine ⟨own ++ [.added icon []], .append hicon, ?_, ?_⟩
      · simp [original_append]
      · rw [placeLink, hiconEq, grown_append]
        rfl
  | wrap =>
      by_cases hfree : AnchorFree (original own)
      · refine ⟨[.added around own], .wrap hfree haround, by simp, ?_⟩
        rw [placeLink, (hasAnchor_eq_false_iff _).2 hfree, haroundEq]
        rfl
      · have hhas : hasAnchor (original own) = true := by
          rw [← Bool.not_eq_false, hasAnchor_eq_false_iff]
          exact hfree
        refine ⟨own, .guarded hfree, rfl, ?_⟩
        rw [placeLink, if_pos hhas]

/-- A tree whose headings are linked grew from the tree by links alone. -/
theorem exists_growth (link : SelfLink) (t : Tree) :
    ∃ growth, original growth = t ∧ grown growth = linkHeadings link t ∧
      LinksOnly link growth := by
  induction t using tree_induction with
  | nil => exact ⟨[], rfl, rfl, .nil⟩
  | text value rest ih =>
      obtain ⟨after, hold, hnew, hlinks⟩ := ih
      exact ⟨.text value :: after, by simp [hold], by simp [hnew], .text value hlinks⟩
  | component tag children rest ihc ihr =>
      obtain ⟨below, hcold, hcnew, hclinks⟩ := ihc
      obtain ⟨after, hold, hnew, hlinks⟩ := ihr
      exact ⟨.component tag below :: after, by simp [hcold, hold], by simp [hcnew, hnew],
        .component tag hclinks hlinks⟩
  | element head children rest ihc ihr =>
      obtain ⟨own, hcold, hcnew, hclinks⟩ := ihc
      obtain ⟨after, hold, hnew, hlinks⟩ := ihr
      by_cases hplain : head.isHeading → head.attribute? "id" = none
      · refine ⟨.element head own :: after, by simp [hcold, hold], ?_,
          .element hplain hclinks hlinks⟩
        rw [linkHeadings_eq_linkedChildren, linkedChildren_of_plain link hplain, grown_element,
          hcnew, hnew]
      · -- The link of a heading with an id goes among what has already grown below it.
        obtain ⟨hh, hid⟩ := Classical.not_imp.1 hplain
        obtain ⟨id, hid⟩ := Option.ne_none_iff_exists'.1 hid
        obtain ⟨children', hplaced, horiginal, hgrown⟩ := exists_linkPlaced link id own
        refine ⟨.element head children' :: after, by simp [horiginal, hcold, hold], ?_,
          .heading hh hid hclinks hplaced hlinks⟩
        rw [linkHeadings_eq_linkedChildren, linkedChildren_of_heading link hh hid, grown_element,
          hgrown, hcold, hcnew, hnew]

/-- A link is among the children or around them, so they are what they were without it. -/
theorem LinkPlaced.original_eq (h : LinkPlaced id own link children) :
    original children = original own := by
  cases h with
  | prepend => rfl
  | append => simp [original_append]
  | wrap => simp
  | guarded => rfl
  | off => rfl

/-- Each heading that gets a link gets one, and no other heading does. -/
theorem LinkPlaced.length_additions {head : ElementHead} (h : LinkPlaced id own link children)
    (hh : head.isHeading) (hid : head.attribute? "id" = some id) :
    (additions children).length =
      (additions own).length + if GetsLink link ⟨head, original own⟩ then 1 else 0 := by
  have hgets : GetsLink link ⟨head, original own⟩ ↔
      link ≠ .off ∧ (link = .wrap → AnchorFree (original own)) := by
    simp [GetsLink, hh, hid]
  cases h with
  | prepend => simp [hgets]
  | append => simp [hgets, additions_append]
  | wrap hfree => simp [hgets, hfree]
  | guarded hnot => simp [hgets, hnot]
  | off => simp [hgets]

/-- There are as many links as elements that get one. -/
theorem LinksOnly.length_additions (h : LinksOnly link growth) :
    (additions growth).length = (elements (original growth)).countP fun e => GetsLink link e := by
  induction h with
  | nil => rfl
  | text value _ ih => simpa using ih
  | component tag _ _ ihc ihr => simp [ihc, ihr]
  | @element head children rest hplain _ _ ihc ihr =>
      -- The element itself gets none, so all links are below it or behind it.
      have hnot : ¬GetsLink link ⟨head, original children⟩ := by
        rintro ⟨-, hh, hid, -⟩
        rw [hplain hh] at hid
        cases hid
      simp [ihc, ihr, hnot]
  | @heading head id own children rest hh hid _ hplaced _ ihc ihr =>
      rw [additions_element, List.length_append, hplaced.length_additions hh hid, original_element,
        hplaced.original_eq, elements_element, List.countP_cons, List.countP_append, ihc, ihr]
      simp only [decide_eq_true_eq]
      omega

end

/-- Linking headings succeeds and is not noticed by those who read the tree.  What the walk over its
headings leaves grew from the tree by links alone: each heading with an id has its own among its
children, unless it is to go around them and there is an anchor below them, or links are off.  All
other nodes are there, in document order, and say of themselves what they said. -/
theorem headingAutolinks_adds_only_links (link : SelfLink) (t : Tree) :
    ∃ u growth, (Stage.headingAutolinks link).apply t = .ok u ∧
      Visits (placeOwnLink link) t u ∧ ReadsLike u t ∧
      (original growth = t ∧
        surfaces t = ((listing growth).filter fun entry => !entry.2).map Prod.fst) ∧
      (grown growth = u ∧ surfaces u = (listing growth).map Prod.fst) ∧
      LinksOnly link growth ∧
      (additions growth).length = (elements t).countP fun e => GetsLink link e := by
  obtain ⟨growth, hold, hnew, hlinks⟩ := exists_growth link t
  refine ⟨linkHeadings link t, growth, rfl, visits_linkHeadings link t,
    readsLike_linkHeadings link t, ⟨hold, ?_⟩, ⟨hnew, ?_⟩, hlinks, ?_⟩
  · rw [← hold, surfaces_original]
  · rw [← hnew, surfaces_grown]
  · rw [← hold, hlinks.length_additions]

end Folio
