import Folio.Proofs.Outline.Tree

/-!
# Anchors inside anchors

An anchor must hold no other anchor.  The links of headings are anchors, so where they go matters: a
heading inside an anchor puts its link there, and a heading that is wrapped encloses the links of
the headings it holds.  The guard of `placeLink` looks at the anchors a heading had before its
headings were linked, and never at what is around it.  For a tree whose anchors hold no anchors, the
theorem says exactly when the tree with its headings linked is again such a tree.
-/

namespace Folio

/-! ## Trees without anchors -/

/-- A tree without anchors. -/
def AnchorFree (t : Tree) : Prop :=
  AllHeads (fun head => head.tag ≠ "a") t

/-- No anchor of the tree lies inside another one. -/
def FlatAnchors (t : Tree) : Prop :=
  ∀ e ∈ elements t, e.head.tag = "a" → AnchorFree e.children

/-- An element has room for the links of the headings below it: if it is an anchor, there are none,
and if it is a heading that is wrapped in its own link, there are none either. -/
def TakesLinks (link : SelfLink) (e : Element) : Prop :=
  (e.head.tag = "a" → Headless e.children) ∧
    (link = .wrap → e.head.isHeading → AnchorFree e.children → Headless e.children)

instance (t : Tree) : Decidable (AnchorFree t) :=
  inferInstanceAs (Decidable (∀ e ∈ elements t, e.head.tag ≠ "a"))

instance (t : Tree) : Decidable (FlatAnchors t) :=
  inferInstanceAs (Decidable (∀ e ∈ elements t, e.head.tag = "a" → AnchorFree e.children))

instance (link : SelfLink) (e : Element) : Decidable (TakesLinks link e) :=
  inferInstanceAs (Decidable ((e.head.tag = "a" → Headless e.children) ∧
    (link = .wrap → e.head.isHeading → AnchorFree e.children → Headless e.children)))

section

variable {head : ElementHead} {tag : ComponentHead} {children rest t u : List Node}

/-- The guard of a heading's link finds an anchor exactly if there is one. -/
theorem hasAnchor_eq_false_iff (t : Tree) : hasAnchor t = false ↔ AnchorFree t := by
  induction t using tree_induction with
  | nil => exact iff_of_true rfl allHeads_nil
  | element head children rest ihc ihr =>
      unfold AnchorFree at ihc ihr ⊢
      rw [hasAnchor_element, allHeads_element, ← ihc, ← ihr]
      simp [and_assoc]
  | component tag children rest ihc ihr =>
      unfold AnchorFree at ihc ihr ⊢
      rw [hasAnchor_component, allHeads_component, ← ihc, ← ihr, Bool.or_eq_false_iff]
  | text value rest ih => exact ih

theorem flatAnchors_nil : FlatAnchors [] := by
  intro e he
  cases he

theorem flatAnchors_element : FlatAnchors (.element head children :: rest) ↔
    (head.tag = "a" → AnchorFree children) ∧ FlatAnchors children ∧ FlatAnchors rest := by
  unfold FlatAnchors
  rw [elements_element, List.forall_mem_cons, List.forall_mem_append]

theorem flatAnchors_component : FlatAnchors (.component tag children :: rest) ↔
    FlatAnchors children ∧ FlatAnchors rest := by
  unfold FlatAnchors
  rw [elements_component, List.forall_mem_append]

theorem flatAnchors_append : FlatAnchors (t ++ u) ↔ FlatAnchors t ∧ FlatAnchors u := by
  unfold FlatAnchors
  rw [elements_append, List.forall_mem_append]

/-- A heading is no anchor. -/
theorem tag_ne_a_of_isHeading (h : head.isHeading) : head.tag ≠ "a" := by
  intro ha
  rw [isHeading_eq_false_of_tag_eq ha (by decide)] at h
  cases h

end

/-! ## Heads that were changed -/

section

variable {f : ElementHead → List Node → ElementHead} {P : ElementHead → Prop}

/-- A property that a change of heads neither makes nor breaks. -/
theorem allHeads_mapHeads (hf : ∀ head children, P (f head children) ↔ P head) (t : Tree) :
    AllHeads P (mapHeads f t) ↔ AllHeads P t := by
  unfold AllHeads
  rw [elements_mapHeads, List.forall_mem_map]
  exact forall₂_congr fun e _ => hf e.head e.children

/-- A property that every changed head has. -/
theorem allHeads_mapHeads_of_forall (hf : ∀ head children, P (f head children)) (t : Tree) :
    AllHeads P (mapHeads f t) := by
  unfold AllHeads
  rw [elements_mapHeads, List.forall_mem_map]
  exact fun e _ => hf e.head e.children

theorem anchorFree_mapHeads (hf : KeepsTags f) (t : Tree) :
    AnchorFree (mapHeads f t) ↔ AnchorFree t :=
  allHeads_mapHeads (fun head children => by rw [hf head children]) t

theorem headless_mapHeads (hf : KeepsTags f) (t : Tree) :
    Headless (mapHeads f t) ↔ Headless t :=
  allHeads_mapHeads (fun head children => by rw [isHeading_of_tag_eq (hf head children)]) t

theorem flatAnchors_mapHeads (hf : KeepsTags f) (t : Tree) :
    FlatAnchors (mapHeads f t) ↔ FlatAnchors t := by
  unfold FlatAnchors
  rw [elements_mapHeads, List.forall_mem_map]
  refine forall₂_congr fun e _ => ?_
  show ((f e.head e.children).tag = "a" → AnchorFree (mapHeads f e.children)) ↔ _
  rw [hf, anchorFree_mapHeads hf]

theorem takesLinks_mapHeads (hf : KeepsTags f) (link : SelfLink) (t : Tree) :
    (∀ e ∈ elements (mapHeads f t), TakesLinks link e) ↔ ∀ e ∈ elements t, TakesLinks link e := by
  rw [elements_mapHeads, List.forall_mem_map]
  refine forall₂_congr fun e _ => ?_
  unfold TakesLinks
  simp only [hf e.head e.children, isHeading_of_tag_eq (hf e.head e.children),
    anchorFree_mapHeads hf, headless_mapHeads hf]

end

/-! ## Addresses of headings -/

/-- All headings of a tree have an address to link to. -/
def Addressed (t : Tree) : Prop :=
  AllHeads (fun head => head.isHeading → ∃ href, selfHref? head = some href) t

/-- A heading has an id once it was given one. -/
theorem exists_attribute?_id_giveId {head : ElementHead} (h : head.isHeading)
    (children : List Node) : ∃ id, (giveId head children).attribute? "id" = some id := by
  unfold giveId
  split
  · rw [ElementHead.attribute?_setAttribute, if_pos rfl]
    exact ⟨_, rfl⟩
  · next hhas =>
      simp only [h, Bool.true_and, Bool.not_eq_true', Bool.not_eq_false] at hhas
      exact Option.isSome_iff_exists.1 hhas

theorem addressed_headingIds (t : Tree) : Addressed (headingIds t) := by
  refine allHeads_mapHeads_of_forall (fun head children hh => ?_) t
  rw [isHeading_of_tag_eq (tag_giveId head children)] at hh
  obtain ⟨id, hid⟩ := exists_attribute?_id_giveId hh children
  refine ⟨"#" ++ id, ?_⟩
  rw [selfHref?, isHeading_of_tag_eq (tag_giveId head children), if_pos hh, hid]
  rfl

/-! ## Placing links -/

section

variable {link : SelfLink} {href : String} {children linked t : List Node}

/-- A heading that is linked has an anchor, its own or one it had before. -/
theorem not_anchorFree_placeLink (hlink : link ≠ .off)
    (h : AnchorFree linked → AnchorFree children) :
    ¬AnchorFree (placeLink link href children linked) := by
  have hicon : ¬AnchorFree [iconAnchor href] := fun hfree => (allHeads_element.1 hfree).1 rfl
  intro hfree
  cases link with
  | off => exact hlink rfl
  | prepend =>
      change AnchorFree ([iconAnchor href] ++ linked) at hfree
      exact hicon (allHeads_append.1 hfree).1
  | append => exact hicon (allHeads_append.1 hfree).2
  | wrap =>
      change AnchorFree (if hasAnchor children then linked else [wrapAnchor href linked]) at hfree
      by_cases hhas : hasAnchor children
      · rw [if_pos hhas] at hfree
        rw [(hasAnchor_eq_false_iff children).2 (h hfree)] at hhas
        cases hhas
      · rw [if_neg hhas] at hfree
        exact (allHeads_element.1 hfree).1 rfl

/-- The link of a heading holds an anchor only if it is wrapped around one; an icon is empty. -/
theorem flatAnchors_placeLink : FlatAnchors (placeLink link href children linked) ↔
    (link = .wrap → AnchorFree children → AnchorFree linked) ∧ FlatAnchors linked := by
  have hicon : FlatAnchors [iconAnchor href] :=
    flatAnchors_element.2 ⟨fun _ => allHeads_nil, flatAnchors_nil, flatAnchors_nil⟩
  cases link with
  | off => simp [placeLink]
  | prepend =>
      show FlatAnchors ([iconAnchor href] ++ linked) ↔ _
      rw [flatAnchors_append]
      simp [hicon]
  | append =>
      show FlatAnchors (linked ++ [iconAnchor href]) ↔ _
      rw [flatAnchors_append]
      simp [hicon]
  | wrap =>
      unfold placeLink
      rw [← hasAnchor_eq_false_iff children]
      by_cases hhas : hasAnchor children
      · simp [hhas]
      · simp [hhas, wrapAnchor, flatAnchors_element, flatAnchors_nil]

/-- Links that go nowhere leave the tree as it is. -/
theorem linkHeadings_off (t : Tree) : linkHeadings .off t = t := by
  induction t using tree_induction with
  | nil => rfl
  | element head children rest ihc ihr =>
      rw [linkHeadings_element, ihc, ihr]
      cases selfHref? head <;> rfl
  | component tag children rest ihc ihr => rw [linkHeadings_component, ihc, ihr]
  | text value rest ih => rw [linkHeadings_text, ih]

/-- Linking adds an anchor for each heading and drops none. -/
theorem anchorFree_linkHeadings (hlink : link ≠ .off) (ht : Addressed t) :
    AnchorFree (linkHeadings link t) ↔ AnchorFree t ∧ Headless t := by
  induction t using tree_induction with
  | nil => exact iff_of_true allHeads_nil ⟨allHeads_nil, allHeads_nil⟩
  | element head children rest ihc ihr =>
      obtain ⟨haddress, hc, hr⟩ := allHeads_element.1 ht
      have ihc := ihc hc
      have ihr := ihr hr
      unfold AnchorFree Headless at ihc ihr ⊢
      rw [linkHeadings_element, allHeads_element, allHeads_element, allHeads_element, ihr]
      by_cases hh : head.isHeading
      · -- A heading is linked, so neither side holds.
        obtain ⟨href, hhref⟩ := haddress hh
        have hnot : ¬AnchorFree (placeLink link href children (linkHeadings link children)) :=
          not_anchorFree_placeLink hlink fun hfree => (ihc.1 hfree).1
        unfold AnchorFree at hnot
        rw [hhref, Option.elim_some]
        simp [hh, hnot]
      · have hplain : head.isHeading = false := by simpa using hh
        rw [selfHref?_eq_none hplain, Option.elim_none, ihc]
        simp only [hplain, true_and]
        constructor
        · rintro ⟨hne, ⟨hfree, hless⟩, hfreeRest, hlessRest⟩
          exact ⟨⟨hne, hfree, hfreeRest⟩, hless, hlessRest⟩
        · rintro ⟨⟨hne, hfree, hfreeRest⟩, hless, hlessRest⟩
          exact ⟨hne, ⟨hfree, hless⟩, hfreeRest, hlessRest⟩
  | component tag children rest ihc ihr =>
      obtain ⟨hc, hr⟩ := allHeads_component.1 ht
      have ihc := ihc hc
      have ihr := ihr hr
      unfold AnchorFree Headless at ihc ihr ⊢
      rw [linkHeadings_component, allHeads_component, allHeads_component, allHeads_component, ihc,
        ihr]
      exact and_and_and_comm
  | text value rest ih => exact ih ht

/-- Linking nests anchors exactly where an anchor or a heading has no room for links. -/
theorem flatAnchors_linkHeadings (hlink : link ≠ .off) (ht : Addressed t) :
    FlatAnchors (linkHeadings link t) ↔
      FlatAnchors t ∧ ∀ e ∈ elements t, TakesLinks link e := by
  induction t using tree_induction with
  | nil => exact iff_of_true flatAnchors_nil ⟨flatAnchors_nil, fun e he => by cases he⟩
  | element head children rest ihc ihr =>
      obtain ⟨haddress, hc, hr⟩ := allHeads_element.1 ht
      have hfree := anchorFree_linkHeadings hlink hc
      rw [linkHeadings_element, flatAnchors_element, flatAnchors_element, elements_element,
        List.forall_mem_cons, List.forall_mem_append, ihr hr]
      by_cases hh : head.isHeading
      · -- A heading is no anchor, and its link encloses anchors if it is wrapped around headings.
        obtain ⟨href, hhref⟩ := haddress hh
        have hne := tag_ne_a_of_isHeading hh
        rw [hhref, Option.elim_some, flatAnchors_placeLink, ihc hc, hfree]
        constructor
        · rintro ⟨-, ⟨hwrap, hflat, hroom⟩, hflatRest, hroomRest⟩
          refine ⟨⟨fun ha => (hne ha).elim, hflat, hflatRest⟩, ⟨fun ha => (hne ha).elim, ?_⟩, hroom,
            hroomRest⟩
          exact fun hl _ hno => (hwrap hl hno).2
        · rintro ⟨⟨-, hflat, hflatRest⟩, ⟨-, hwrap⟩, hroom, hroomRest⟩
          exact ⟨fun ha => (hne ha).elim, ⟨fun hl hno => ⟨hno, hwrap hl hh hno⟩, hflat, hroom⟩,
            hflatRest, hroomRest⟩
      · -- Any other element keeps its children, and if it is an anchor, their headings are linked.
        have hplain : head.isHeading = false := by simpa using hh
        rw [selfHref?_eq_none hplain, Option.elim_none, ihc hc, hfree]
        constructor
        · rintro ⟨ha, ⟨hflat, hroom⟩, hflatRest, hroomRest⟩
          exact ⟨⟨fun htag => (ha htag).1, hflat, hflatRest⟩,
            ⟨fun htag => (ha htag).2, fun _ hheading => (hh hheading).elim⟩, hroom, hroomRest⟩
        · rintro ⟨⟨hfreeBelow, hflat, hflatRest⟩, ⟨hnone, -⟩, hroom, hroomRest⟩
          exact ⟨fun htag => ⟨hfreeBelow htag, hnone htag⟩, ⟨hflat, hroom⟩, hflatRest, hroomRest⟩
  | component tag children rest ihc ihr =>
      obtain ⟨hc, hr⟩ := allHeads_component.1 ht
      rw [linkHeadings_component, flatAnchors_component, flatAnchors_component, elements_component,
        List.forall_mem_append, ihc hc, ihr hr]
      exact and_and_and_comm
  | text value rest ih => exact ih ht

end

/-! ## Ids and links -/

/-- Giving headings ids and linking them succeeds; in a tree whose anchors hold no anchors, they
still hold none exactly if links are off, or no anchor holds a heading and no heading that is
wrapped holds another one. -/
theorem flatAnchors_autolinked_iff (link : SelfLink) (t : Tree) (ht : FlatAnchors t) :
    ∃ u, applyStages [.headingIds, .headingAutolinks link] t = .ok u ∧
      (FlatAnchors u ↔ link = .off ∨ ∀ e ∈ elements t, TakesLinks link e) := by
  have hids : FlatAnchors (headingIds t) := (flatAnchors_mapHeads tag_giveId t).2 ht
  refine ⟨linkHeadings link (headingIds t), rfl, ?_⟩
  by_cases hlink : link = .off
  · subst hlink
    rw [linkHeadings_off]
    exact iff_of_true hids (Or.inl rfl)
  · rw [flatAnchors_linkHeadings hlink (addressed_headingIds t)]
    have hroom : (∀ e ∈ elements (headingIds t), TakesLinks link e) ↔ _ :=
      takesLinks_mapHeads tag_giveId link t
    rw [hroom]
    simp [hids, hlink]

/-- A heading whose text is a link, for which wrapping has a guard. -/
def linkedHeading : Tree :=
  [.element (.ofTag "h2") [.element (.ofTag "a") [.text "T"]]]

theorem flatAnchors_autolinked_linkedHeading :
    FlatAnchors linkedHeading ∧ (∀ e ∈ elements linkedHeading, TakesLinks .wrap e) ∧
      ∃ u, applyStages [.headingIds, .headingAutolinks .wrap] linkedHeading = .ok u ∧
        FlatAnchors u := by
  have hflat : FlatAnchors linkedHeading := by decide
  have htakes : ∀ e ∈ elements linkedHeading, TakesLinks .wrap e := by decide
  obtain ⟨u, hu, hiff⟩ := flatAnchors_autolinked_iff .wrap linkedHeading hflat
  exact ⟨hflat, htakes, u, hu, hiff.2 (Or.inr htakes)⟩

/-- A heading inside a link, for which wrapping has none. -/
def headingInAnchor : Tree :=
  [.element (.ofTag "a") [.element (.ofTag "h2") [.text "T"]]]

/-- The link of a heading inside an anchor is an anchor inside an anchor. -/
theorem not_flatAnchors_autolinked_headingInAnchor :
    FlatAnchors headingInAnchor ∧
      ∃ u, applyStages [.headingIds, .headingAutolinks .wrap] headingInAnchor = .ok u ∧
        ¬FlatAnchors u :=
  ⟨by decide, _, rfl, by decide⟩

end Folio
