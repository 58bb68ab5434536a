import Folio.Proofs.Html.StartTag
import Folio.Proofs.Pipeline.Outline

/-!
# Targets of an outline

The outline of a compiled tree links to ids, and rendering writes these ids into start tags of
headings.  Ids are slugs, so they need no escaping and the link and the start tag show the same
text.  The one slug that cannot be linked to is the empty one: it is written without a value.  The
theorem says which entries lead to a heading of the page, and for which texts a slug is empty.
-/

namespace Folio

open Folio.Text

/-! ## Empty slugs -/

theorem slugChars_eq_nil_iff (lower : Char → List Char) (cs : List Char) :
    slugChars lower false cs = [] ↔
      ∀ c ∈ cs, isBlank c = false ∧ ∀ d ∈ lower c, isSlugChar d = false := by
  induction cs with
  | nil => simp [slugChars]
  | cons c cs ih =>
      rw [List.forall_mem_cons, ← ih, slugChars]
      by_cases hblank : isBlank c
      · simp [hblank]
      · simp [hblank, List.filter_eq_nil_iff]

/-- A text with something that slugs show: white space, or a letter or digit in lower case. -/
def Sluggable (text : String) : Prop :=
  ∃ c ∈ text.toList, isBlank c ∨ ∃ d ∈ lowercase c, isSlugChar d

theorem slug_ne_empty_iff (text : String) : slug text ≠ "" ↔ Sluggable text := by
  rw [slug, Ne, String.ofList_eq_empty_iff, slugChars_eq_nil_iff]
  simp [Sluggable, or_iff_not_imp_left]

/-! ## Entries and what they link to -/

/-- An entry without its text. -/
def Heading.link (entry : Heading) : Nat × String :=
  (entry.level, entry.href)

/-- The entry of an element that gets its id from its text, if outlines list such a heading. -/
def namedHeading? (e : Element) : Option Heading := do
  let level ← e.head.headingLevel?
  if 2 ≤ level && level ≤ 4 then
    some (Heading.ofText level (String.ofList (trim (content e.children).toList)))
  else
    none

/-- The entry leads to a heading of the page: its link has a fragment, and the start tag of a
heading of its level has this fragment as its id. -/
def Resolves (html : String) (entry : Heading) : Prop :=
  ∃ id tag before after, id ≠ "" ∧ entry.href = "#" ++ id ∧
    (ElementHead.ofTag tag).headingLevel? = some entry.level ∧
    Occurs (tagWith tag "id" id before after) html

theorem href_of_namedHeading? {e : Element} {named : Heading} (h : namedHeading? e = some named) :
    named.href = "#" ++ slug named.text := by
  simp only [namedHeading?, Option.bind_eq_bind, Option.bind_eq_some_iff] at h
  obtain ⟨level, -, h⟩ := h
  split at h
  · cases h
    rfl
  · cases h

/-- An entry has the level of its heading, and links to its id. -/
theorem heading?_eq_some {e : Element} {entry : Heading} (h : heading? e = some entry) :
    e.head.headingLevel? = some entry.level ∧
      ∃ id, e.head.attribute? "id" = some id ∧ entry.href = "#" ++ id := by
  simp only [heading?, Option.bind_eq_bind, Option.bind_eq_some_iff] at h
  obtain ⟨level, hlevel, id, hid, h⟩ := h
  split at h
  · cases h
    exact ⟨hlevel, id, hid, rfl⟩
  · cases h

/-- What an entry links to is said by the tag and the id. -/
theorem map_link_heading?_congr {e e' : Element} (htag : e.head.tag = e'.head.tag)
    (hid : e.head.attribute? "id" = e'.head.attribute? "id") :
    (heading? e).map Heading.link = (heading? e').map Heading.link := by
  have hlevel : e.head.headingLevel? = e'.head.headingLevel? := by
    rw [ElementHead.headingLevel?, ElementHead.headingLevel?, htag]
  rw [heading?, heading?, hlevel, hid]
  cases e'.head.headingLevel? with
  | none => rfl
  | some level =>
      cases e'.head.attribute? "id" with
      | none => rfl
      | some id =>
          simp only [Option.bind_eq_bind, Option.bind_some]
          split <;> rfl

/-- In a tree without ids, headings are given the ids that outlines expect of them. -/
theorem treeOutline_headingIds {t : Tree} (h : ∀ e ∈ elements t, e.head.attribute? "id" = none) :
    treeOutline (headingIds t) = (elements t).filterMap namedHeading? := by
  rw [treeOutline, headingIds, elements_mapHeads, List.filterMap_map]
  refine List.filterMap_congr fun e he => ?_
  show heading? ⟨giveId e.head e.children, mapHeads giveId e.children⟩ = namedHeading? e
  have hcontent := (sameShape_mapHeads tag_giveId e.children).sameView.content_eq
  cases hlevel : e.head.headingLevel? with
  | none =>
      have hplain : (giveId e.head e.children).isHeading = false := by
        rw [isHeading_of_tag_eq (tag_giveId e.head e.children), ElementHead.isHeading, hlevel]
        rfl
      rw [heading?_eq_none hplain, namedHeading?, hlevel]
      rfl
  | some level =>
      have hnew : (e.head.isHeading && !e.head.attributes.contains "id") = true := by
        have hid : e.head.attributes.get? "id" = none := h e he
        rw [ElementHead.isHeading, hlevel, Dict.contains, hid]
        rfl
      have hlevel' : ∀ value, (e.head.setAttribute "id" value).headingLevel? = some level :=
        fun _ => hlevel
      rw [giveId, if_pos hnew, heading?, namedHeading?, hlevel, hlevel',
        ElementHead.attribute?_setAttribute, if_pos rfl, hcontent]
      rfl

/-! ## Revisions -/

section

variable {R : Element → ElementHead → Prop} {t u : List Node}

/-- A revision that keeps ids keeps what outlines link to, also where headings hold code. -/
theorem Revises.map_link_treeOutline (h : Revises R t u)
    (hid : ∀ e head, R e head → head.attribute? "id" = e.head.attribute? "id")
    (ht : HeadlessBlocks t) :
    (treeOutline u).map Heading.link = (treeOutline t).map Heading.link := by
  rw [treeOutline, treeOutline, List.map_filterMap, List.map_filterMap]
  refine h.readings_eq (f := fun e => (heading? e).map Heading.link) (fun e he => ?_) ?_ ht
  · rw [heading?_eq_none he]
    rfl
  · intro e _ _ head nodes linked htag hr _ _
    exact map_link_heading?_congr htag (hid e head hr)

theorem childlessVoids_append {v : Tree} :
    ChildlessVoids (t ++ v) ↔ ChildlessVoids t ∧ ChildlessVoids v := by
  unfold ChildlessVoids
  rw [elements_append, List.forall_mem_append]

theorem Spans.childlessVoids (hs : Spans t) : ChildlessVoids t := by
  intro e he hvoid
  have hspans : AllHeads (fun head => head.tag = "span") t := hs.allHeads fun _ htag => htag
  rw [hspans e he] at hvoid
  exact absurd hvoid (by decide)

/-- The link of a heading is put below no element without content. -/
theorem childlessVoids_placeLink (link : SelfLink) (href : String) (children : List Node)
    {linked : List Node} (h : ChildlessVoids linked) :
    ChildlessVoids (placeLink link href children linked) := by
  have hnil : ChildlessVoids [] := fun e he => by cases he
  refine of_placeLink link href children hnil (fun head nodes htag hnodes => ?_)
    (fun ht hu => childlessVoids_append.2 ⟨ht, hu⟩) h
  refine childlessVoids_element.2 ⟨fun hvoid => ?_, hnodes, hnil⟩
  rw [htag] at hvoid
  exact absurd hvoid (by decide)

/-- A revision puts nothing below the elements without content. -/
theorem Revises.childlessVoids (h : Revises R t u) (ht : ChildlessVoids t) : ChildlessVoids u := by
  induction h with
  | nil => exact ht
  | text value _ ih => exact ih ht
  | component tag _ _ ihc ihr =>
      rw [childlessVoids_component] at ht ⊢
      exact ⟨ihc ht.1, ihr ht.2⟩
  | @element head head' children children' rest rest' htag hr hc _ ihc ihr =>
      rw [childlessVoids_element] at ht ⊢
      refine ⟨fun hvoid => ?_, ihc ht.2.1, ihr ht.2.2⟩
      rw [htag] at hvoid
      rw [ht.1 hvoid] at hc
      cases hc
      rfl
  | @link head head' children children' rest rest' l href hh htag hr hc _ ihc ihr =>
      rw [childlessVoids_element] at ht ⊢
      refine ⟨fun hvoid => ?_, childlessVoids_placeLink l href children (ihc ht.2.1), ihr ht.2.2⟩
      have hplain : ∀ tag ∈ voidTags, (ElementHead.ofTag tag).isHeading = false := by decide
      rw [isHeading_eq_false_of_tag_eq htag.symm (hplain _ hvoid)] at hh
      cases hh
  | @recode head head' code before before' body rows after after' rest rest' hpre htag hr hbefore
      hcode hs hb ha _ ihb iha ihr =>
      rw [childlessVoids_element, childlessVoids_append, childlessVoids_element] at ht ⊢
      obtain ⟨-, ⟨hvb, -, -, hva⟩, hvr⟩ := ht
      refine ⟨fun hvoid => ?_, ⟨ihb hvb, fun hvoid => ?_, hs.childlessVoids, iha hva⟩, ihr hvr⟩
      · rw [htag, hpre] at hvoid
        exact absurd hvoid (by decide)
      · rw [hcode] at hvoid
        exact absurd hvoid (by decide)

end

/-! ## Resolving entries -/

/-- A link without a fragment leads nowhere. -/
theorem not_resolves {html : String} {entry : Heading} (h : entry.href = "#") :
    ¬Resolves html entry := by
  rintro ⟨id, -, -, -, hne, heq, -⟩
  have hid : "#" ++ "" = "#" ++ id := by rw [← heq, h, String.append_empty]
  exact hne ((String.append_right_inj "#").1 hid).symm

/-- An entry of a tree that is rendered in full leads to its heading if the id is a slug and not
empty. -/
theorem resolves_iff {registry : Registry} {t : Tree} {html : String}
    (hhtml : toHtml registry t = .ok html) (hvoids : ChildlessVoids t) {entry : Heading}
    (hentry : entry ∈ treeOutline t) {text : String} (hhref : entry.href = "#" ++ slug text) :
    Resolves html entry ↔ slug text ≠ "" := by
  constructor
  · intro hresolve hempty
    rw [hempty, String.append_empty] at hhref
    exact not_resolves hhref hresolve
  · intro hne
    obtain ⟨e, he, hentry⟩ := List.mem_filterMap.1 hentry
    obtain ⟨hlevel, id, hid, heq⟩ := heading?_eq_some hentry
    have hslug : id = slug text := by rwa [hhref, String.append_right_inj, eq_comm] at heq
    obtain ⟨before, after, htag⟩ := exists_startTag_eq hid (hslug ▸ hne) e.head.tag
    have hshown := occurs_startTag hhtml e (by rwa [shown_eq_self hvoids])
    rw [htag, hslug, escapeAttribute_slug] at hshown
    exact ⟨slug text, e.head.tag, before, after, hne, hhref, hlevel, hshown⟩

/-- Entries with the links of named headings link to the slugs of the texts of these headings. -/
theorem href_of_map_link_eq {t : Tree} {entries : List Heading}
    (h : entries.map Heading.link = ((elements t).filterMap namedHeading?).map Heading.link) :
    (∀ entry ∈ entries, ∃ named ∈ (elements t).filterMap namedHeading?,
      entry.href = "#" ++ slug named.text) ∧
    ∀ named ∈ (elements t).filterMap namedHeading?, ∃ entry ∈ entries,
      entry.href = "#" ++ slug named.text := by
  have hslug : ∀ entry, ∀ named ∈ (elements t).filterMap namedHeading?,
      Heading.link named = Heading.link entry → entry.href = "#" ++ slug named.text := by
    intro entry named hnamed heq
    obtain ⟨e, -, he⟩ := List.mem_filterMap.1 hnamed
    exact (congrArg Prod.snd heq).symm.trans (href_of_namedHeading? he)
  constructor
  · intro entry hentry
    have hlink := List.mem_map_of_mem (f := Heading.link) hentry
    rw [h] at hlink
    obtain ⟨named, hnamed, heq⟩ := List.mem_map.1 hlink
    exact ⟨named, hnamed, hslug entry named hnamed heq⟩
  · intro named hnamed
    have hlink := List.mem_map_of_mem (f := Heading.link) hnamed
    rw [← h] at hlink
    obtain ⟨entry, hentry, heq⟩ := List.mem_map.1 hlink
    exact ⟨entry, hentry, hslug entry named hnamed heq.symm⟩

/-- The standard stages compile every tree whose components are known, and the tree is rendered.  In
a tree without ids, with nothing below the elements without content and no heading in its code
blocks, the entries of the outline link to the slugs of the headings, in order, and an entry leads
to a heading of the page exactly if this slug is not empty; so all entries do exactly if the text of
every heading that outlines list has something that slugs show. -/
theorem treeOutline_resolves_iff {registry : Registry} {options : CompileOptions}
    {highlighter : Theme → Highlighter} {stages : List Stage}
    (hstages : Pipeline.standardStages registry options highlighter = .ok stages)
    (htotal : ∀ theme, Theme.find options.theme = .ok theme → (highlighter theme).Total)
    {tree : Tree} (hknown : unresolvedIn? registry tree = none)
    (hfresh : ∀ e ∈ elements tree, e.head.attribute? "id" = none) (hvoids : ChildlessVoids tree)
    (hblocks : HeadlessBlocks tree) :
    ∃ result html, applyStages stages tree = .ok result ∧ toHtml registry result = .ok html ∧
      (treeOutline result).map Heading.link =
        ((elements tree).filterMap namedHeading?).map Heading.link ∧
      (∀ entry ∈ treeOutline result, Resolves html entry ↔ entry.href ≠ "#") ∧
      ((∀ entry ∈ treeOutline result, Resolves html entry) ↔
        ∀ named ∈ (elements tree).filterMap namedHeading?, Sluggable named.text) := by
  obtain ⟨result, hrun⟩ := exists_run_standardStages hstages htotal hknown
  obtain ⟨rest, rfl, hbuilt⟩ := exists_standardStages hstages
  have hall : ∀ stage ∈ Stage.resolveComponents registry :: rest, stage.isBuiltIn :=
    List.forall_mem_cons.2 ⟨rfl, hbuilt⟩
  obtain ⟨html, hhtml⟩ := exists_toHtml (unresolvedIn?_of_run hall hknown hrun)
  have hvoids' : ChildlessVoids result :=
    keeps_of_run (fun _ _ _ hrev => hrev.childlessVoids) hall hvoids hrun
  have hids : (treeOutline result).map Heading.link =
      (treeOutline (headingIds tree)).map Heading.link :=
    eq_of_standardStages (P := HeadlessBlocks) (g := fun t => (treeOutline t).map Heading.link)
      (fun _ _ _ hrev hid ht => ⟨hrev.headlessBlocks ht, hrev.map_link_treeOutline hid ht⟩)
      hstages ((revises_headingIds tree).headlessBlocks hblocks) hrun
  rw [treeOutline_headingIds hfresh] at hids
  obtain ⟨hnames, hentries⟩ := href_of_map_link_eq hids
  refine ⟨result, html, hrun, hhtml, hids, ?_, ?_⟩
  · intro entry hentry
    obtain ⟨named, -, hhref⟩ := hnames entry hentry
    rw [resolves_iff hhtml hvoids' hentry hhref, hhref]
    exact not_congr (String.append_right_inj "#").symm
  · constructor
    · intro hresolve named hnamed
      obtain ⟨entry, hentry, hhref⟩ := hentries named hnamed
      rw [← slug_ne_empty_iff]
      exact (resolves_iff hhtml hvoids' hentry hhref).1 (hresolve entry hentry)
    · intro hslugs entry hentry
      obtain ⟨named, hnamed, hhref⟩ := hnames entry hentry
      have hslug := (slug_ne_empty_iff named.text).2 (hslugs named hnamed)
      exact (resolves_iff hhtml hvoids' hentry hhref).2 hslug

/-- Tabs with a line break, a block, and two headings, one of which holds the other. -/
def nestedHeadings : Tree :=
  [.component { name := "Tabs" }
    [.element (.ofTag "h2") [.text "Größe 2", .element (.ofTag "br") [],
        .element (.ofTag "h3") [.text " Use "]],
      .element (.ofTag "pre") [.element (.ofTag "code") [.text "b\n"]]]]

theorem treeOutline_resolves_nestedHeadings :
    ∃ stages, Pipeline.standardStages tabsOnly {} Highlighter.plain = .ok stages ∧
      (∀ theme, Theme.find Theme.defaultName = .ok theme → (Highlighter.plain theme).Total) ∧
      unresolvedIn? tabsOnly nestedHeadings = none ∧
      (∀ e ∈ elements nestedHeadings, e.head.attribute? "id" = none) ∧
      ChildlessVoids nestedHeadings ∧ HeadlessBlocks nestedHeadings ∧
      (∀ named ∈ (elements nestedHeadings).filterMap namedHeading?, Sluggable named.text) ∧
      ∃ result html, applyStages stages nestedHeadings = .ok result ∧
        toHtml tabsOnly result = .ok html ∧
        (treeOutline result).map Heading.link = [(2, "#gre-2-use"), (3, "#use")] ∧
        ∀ entry ∈ treeOutline result, entry.href ≠ "#" ∧ Resolves html entry := by
  have hstages : ∃ stages, Pipeline.standardStages tabsOnly {} Highlighter.plain = .ok stages :=
    ⟨_, rfl⟩
  obtain ⟨stages, hstages⟩ := hstages
  have htotal : ∀ theme, Theme.find Theme.defaultName = .ok theme →
      (Highlighter.plain theme).Total :=
    fun theme _ => Highlighter.total_plain theme
  have hfresh : ∀ e ∈ elements nestedHeadings, e.head.attribute? "id" = none := by decide
  have hvoids : ChildlessVoids nestedHeadings := by
    simp [ChildlessVoids, nestedHeadings, ElementHead.ofTag, voidTags]
  have hblocks : HeadlessBlocks nestedHeadings := by decide
  have hslugs : ∀ named ∈ (elements nestedHeadings).filterMap namedHeading?,
      Sluggable named.text := by
    simp only [← slug_ne_empty_iff]
    decide
  have hlinks : ((elements nestedHeadings).filterMap namedHeading?).map Heading.link =
      [(2, "#gre-2-use"), (3, "#use")] := by
    decide
  obtain ⟨result, html, hrun, hhtml, heq, heach, hall⟩ :=
    treeOutline_resolves_iff hstages htotal rfl hfresh hvoids hblocks
  refine ⟨stages, hstages, htotal, rfl, hfresh, hvoids, hblocks, hslugs, result, html, hrun, hhtml,
    heq.trans hlinks, fun entry hentry => ?_⟩
  have hresolves := hall.2 hslugs entry hentry
  exact ⟨(heach entry hentry).1 hresolves, hresolves⟩

/-- A heading without a letter that slugs have. -/
def unnamedHeading : Tree :=
  [.element (.ofTag "h2") [.text "多言語"]]

/-- The id of such a heading is empty, and its entry leads nowhere. -/
theorem not_treeOutline_resolves_unnamedHeading :
    unresolvedIn? {} unnamedHeading = none ∧
      (∀ e ∈ elements unnamedHeading, e.head.attribute? "id" = none) ∧
      ChildlessVoids unnamedHeading ∧ HeadlessBlocks unnamedHeading ∧
      ∃ stages result html, Pipeline.standardStages {} {} Highlighter.plain = .ok stages ∧
        applyStages stages unnamedHeading = .ok result ∧ toHtml {} result = .ok html ∧
        treeOutline result = [{ level := 2, text := "多言語", href := "#" }] ∧
        html = "<h2 id><a href=\"#\">多言語</a></h2>\n" ∧
        ∀ entry ∈ treeOutline result, ¬Resolves html entry := by
  have hblocks : HeadlessBlocks unnamedHeading := by decide
  have hvoids : ChildlessVoids unnamedHeading := by
    simp [ChildlessVoids, unnamedHeading, ElementHead.ofTag, voidTags]
  refine ⟨rfl, by decide, hvoids, hblocks, _, _, _, rfl, rfl, rfl, by decide, by decide, ?_⟩
  intro entry hentry
  refine not_resolves ?_
  revert entry
  decide

end Folio
