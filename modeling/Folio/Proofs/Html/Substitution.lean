import Folio.Proofs.Html.Writing
import Mathlib.Data.List.Basic

/-!
# Elements in the place of components

A component is rendered like the element that it is bound to, but for line feeds, unless this is an
element without content: then the children of the component are rendered all the same, and an end
tag behind them, which no element of this kind has.
-/

namespace Folio

open Html

/-! ## Replaced components -/

mutual

/-- A node with the element that it is bound to in the place of each component. -/
def Node.bound (registry : Registry) : Node → Node
  | .text value => .text value
  | .element head children => .element head (bound registry children)
  | .component head children =>
    match registry.resolve? head.name with
    | none => .component head (bound registry children)
    | some binding =>
      .element { tag := binding.element, attributes := componentAttributes head }
        (bound registry children)

/-- A tree with the element that it is bound to in the place of each component. -/
def bound (registry : Registry) : List Node → List Node
  | [] => []
  | node :: nodes => node.bound registry :: bound registry nodes

end

/-- The component is bound to an element without content. -/
def BoundToVoid (registry : Registry) (component : ComponentHead) : Prop :=
  ∃ binding ∈ registry.resolve? component.name, binding.element ∈ voidTags

/-- Some component that is rendered is bound to an element without content. -/
def HasVoidBinding (registry : Registry) (tree : Tree) : Prop :=
  ∃ component ∈ components (shown tree), BoundToVoid registry component

instance (registry : Registry) (component : ComponentHead) :
    Decidable (BoundToVoid registry component) :=
  inferInstanceAs (Decidable (∃ _ ∈ _, _))

instance (registry : Registry) (tree : Tree) : Decidable (HasVoidBinding registry tree) :=
  inferInstanceAs (Decidable (∃ component ∈ components (shown tree), _))

section

variable {registry : Registry} {head : ElementHead} {tag : ComponentHead} {value : String}
  {children rest : List Node}

theorem bound_component {binding : Binding}
    (hbinding : registry.resolve? tag.name = some binding) :
    bound registry (.component tag children :: rest) =
      .element { tag := binding.element, attributes := componentAttributes tag }
        (bound registry children) :: bound registry rest := by
  rw [bound, Node.bound, hbinding]

theorem boundToVoid_iff {binding : Binding}
    (hbinding : registry.resolve? tag.name = some binding) :
    BoundToVoid registry tag ↔ binding.element ∈ voidTags := by
  rw [BoundToVoid, hbinding]
  simp

theorem hasVoidBinding_nil : ¬HasVoidBinding registry [] := by
  rintro ⟨component, hmem, -⟩
  cases hmem

theorem hasVoidBinding_component : HasVoidBinding registry (.component tag children :: rest) ↔
    BoundToVoid registry tag ∨ HasVoidBinding registry children ∨ HasVoidBinding registry rest := by
  unfold HasVoidBinding
  rw [shown, Node.shown, components_component, List.exists_mem_cons_iff]
  simp only [List.mem_append, or_and_right, exists_or]

theorem hasVoidBinding_void (hvoid : head.tag ∈ voidTags) :
    HasVoidBinding registry (.element head children :: rest) ↔ HasVoidBinding registry rest := by
  unfold HasVoidBinding
  rw [shown_void hvoid, components_element, components_nil, List.nil_append]

theorem hasVoidBinding_element (hvoid : head.tag ∉ voidTags) :
    HasVoidBinding registry (.element head children :: rest) ↔
      HasVoidBinding registry children ∨ HasVoidBinding registry rest := by
  unfold HasVoidBinding
  rw [shown_element hvoid, components_element]
  simp only [List.mem_append, or_and_right, exists_or]

end

/-! ## Added line feeds -/

/-- The second text is the first one with line feeds added. -/
inductive AddsBreaks : List Char → List Char → Prop
  | nil : AddsBreaks [] []
  | cons (c : Char) {cs ds : List Char} : AddsBreaks cs ds → AddsBreaks (c :: cs) (c :: ds)
  | lineFeed {cs ds : List Char} : AddsBreaks cs ds → AddsBreaks cs ('\n' :: ds)

/-- The number of characters of a text besides line feeds. -/
def visible (cs : List Char) : Nat :=
  cs.countP (· ≠ '\n')

theorem visible_append (cs ds : List Char) : visible (cs ++ ds) = visible cs + visible ds :=
  List.countP_append

namespace AddsBreaks

variable {cs cs' ds ds' : List Char}

theorem refl (cs : List Char) : AddsBreaks cs cs := by
  induction cs with
  | nil => exact .nil
  | cons c cs ih => exact .cons c ih

theorem append (h : AddsBreaks cs ds) (h' : AddsBreaks cs' ds') :
    AddsBreaks (cs ++ cs') (ds ++ ds') := by
  induction h with
  | nil => exact h'
  | cons c _ ih => exact .cons c ih
  | lineFeed _ ih => exact .lineFeed ih

theorem visible_eq (h : AddsBreaks cs ds) : visible cs = visible ds := by
  induction h with
  | nil => rfl
  | cons c _ ih => simpa [visible, List.countP_cons] using ih
  | lineFeed _ ih => simpa [visible, List.countP_cons] using ih

end AddsBreaks

/-- What is rendered in the place of components, against what is rendered for them: line feeds are
added, or, if `void` holds, more than these. -/
structure StandsFor (void : Prop) (plain html : String) : Prop where
  adds : ¬void → AddsBreaks plain.toList html.toList
  more : void → visible plain.toList < visible html.toList

namespace StandsFor

variable {void void' : Prop} {plain plain' html html' : String}

theorem same (html : String) : StandsFor False html html :=
  ⟨fun _ => .refl _, False.elim⟩

theorem le (h : StandsFor void plain html) : visible plain.toList ≤ visible html.toList := by
  by_cases hvoid : void
  · exact Nat.le_of_lt (h.more hvoid)
  · exact Nat.le_of_eq (h.adds hvoid).visible_eq

theorem append (h : StandsFor void plain html) (h' : StandsFor void' plain' html') :
    StandsFor (void ∨ void') (plain ++ plain') (html ++ html') := by
  have hle := h.le
  have hle' := h'.le
  refine ⟨fun hnot => ?_, fun hvoid => ?_⟩
  · obtain ⟨hnone, hnone'⟩ := not_or.1 hnot
    rw [String.toList_append, String.toList_append]
    exact (h.adds hnone).append (h'.adds hnone')
  · rw [String.toList_append, String.toList_append, visible_append, visible_append]
    rcases hvoid with hvoid | hvoid
    · have hlt := h.more hvoid
      omega
    · have hlt := h'.more hvoid
      omega

theorem congr (h : StandsFor void plain html) (hiff : void ↔ void') : StandsFor void' plain html :=
  ⟨fun hnot => h.adds (mt hiff.1 hnot), fun hvoid => h.more (hiff.2 hvoid)⟩

/-- Nothing but line feeds is added exactly if there is no element without content. -/
theorem addsBreaks_iff (h : StandsFor void plain html) :
    AddsBreaks plain.toList html.toList ↔ ¬void := by
  constructor
  · intro hadds hvoid
    have hlt := h.more hvoid
    rw [hadds.visible_eq] at hlt
    exact Nat.lt_irrefl _ hlt
  · exact h.adds

end StandsFor

/-- The line feed after a component may be missing after an element. -/
theorem standsFor_blockBreak (tag : String) : StandsFor False (blockBreak tag) "\n" := by
  refine ⟨fun _ => ?_, False.elim⟩
  unfold blockBreak
  split
  · exact .refl _
  · exact .lineFeed .nil

/-- An element without content has neither the children nor the end tag of a component. -/
theorem standsFor_void (tag inner : String) :
    StandsFor True (blockBreak tag) (inner ++ endTag tag ++ "\n") := by
  refine ⟨fun h => (h trivial).elim, fun _ => ?_⟩
  have hbreak : visible (blockBreak tag).toList = 0 := by
    unfold blockBreak
    split <;> rfl
  have hend : 0 < visible (endTag tag).toList := by
    simp [visible, endTag]
  simp only [String.toList_append, visible_append]
  omega

/-- A page and the page of the tree with elements in the place of components. -/
theorem exists_standsFor {registry : Registry} {t : Tree} {html : String}
    (h : toHtml registry t = .ok html) : ∃ plain, toHtml registry (bound registry t) = .ok plain ∧
      StandsFor (HasVoidBinding registry t) plain html := by
  induction t using tree_induction generalizing html with
  | nil =>
      cases h
      exact ⟨"", rfl, (StandsFor.same "").congr (iff_of_false id hasVoidBinding_nil)⟩
  | text value rest ih =>
      obtain ⟨after, hafter, rfl⟩ := toHtml_text_eq_ok_iff.1 h
      obtain ⟨after', hafter', hrest⟩ := ih hafter
      refine ⟨_, toHtml_text_eq_ok_iff.2 ⟨after', hafter', rfl⟩, ?_⟩
      exact ((StandsFor.same _).append hrest).congr (iff_of_eq (false_or _))
  | component tag children rest ihc ihr =>
      cases hbinding : registry.resolve? tag.name with
      | none =>
          obtain ⟨first, after, hfirst, -, -⟩ := toHtml_cons_eq_ok_iff.1 h
          rw [Node.toHtml, hbinding] at hfirst
          cases hfirst
      | some binding =>
          obtain ⟨inner, after, hinner, hafter, rfl⟩ := (toHtml_component_eq_ok_iff hbinding).1 h
          obtain ⟨inner', hinner', hchildren⟩ := ihc hinner
          obtain ⟨after', hafter', hrest⟩ := ihr hafter
          have hstart := StandsFor.same (startTag binding.element (componentAttributes tag))
          have hend := StandsFor.same (endTag binding.element)
          have hiff := boundToVoid_iff hbinding
          rw [bound_component hbinding]
          by_cases hvoid : binding.element ∈ voidTags
          · refine ⟨_, (toHtml_void_eq_ok_iff hvoid).2 ⟨after', hafter', rfl⟩, ?_⟩
            have hall := (hstart.append (standsFor_void binding.element inner)).append hrest
            simp only [String.append_assoc] at hall ⊢
            refine hall.congr ?_
            rw [hasVoidBinding_component, hiff]
            simp [hvoid]
          · refine ⟨_, (toHtml_element_eq_ok_iff hvoid).2 ⟨inner', after', hinner', hafter', rfl⟩,
              ?_⟩
            have hall := (((hstart.append hchildren).append hend).append
              (standsFor_blockBreak binding.element)).append hrest
            refine hall.congr ?_
            rw [hasVoidBinding_component, hiff]
            simp [hvoid]
  | element head children rest ihc ihr =>
      have hstart := StandsFor.same (startTag head.tag head.attributes)
      have hend := StandsFor.same (endTag head.tag)
      have hbreak := StandsFor.same (blockBreak head.tag)
      by_cases hvoid : head.tag ∈ voidTags
      · obtain ⟨after, hafter, rfl⟩ := (toHtml_void_eq_ok_iff hvoid).1 h
        obtain ⟨after', hafter', hrest⟩ := ihr hafter
        refine ⟨_, (toHtml_void_eq_ok_iff hvoid).2 ⟨after', hafter', rfl⟩, ?_⟩
        refine ((hstart.append hbreak).append hrest).congr ?_
        rw [hasVoidBinding_void hvoid]
        simp
      · obtain ⟨inner, after, hinner, hafter, rfl⟩ := (toHtml_element_eq_ok_iff hvoid).1 h
        obtain ⟨inner', hinner', hchildren⟩ := ihc hinner
        obtain ⟨after', hafter', hrest⟩ := ihr hafter
        refine ⟨_, (toHtml_element_eq_ok_iff hvoid).2 ⟨inner', after', hinner', hafter', rfl⟩, ?_⟩
        refine ((((hstart.append hchildren).append hend).append hbreak).append hrest).congr ?_
        rw [hasVoidBinding_element hvoid]
        simp

/-- No component is left of those that are rendered. -/
theorem components_shown_bound {registry : Registry} {t : Tree}
    (h : unresolvedIn? registry (shown t) = none) : components (shown (bound registry t)) = [] := by
  induction t using tree_induction with
  | nil => rfl
  | text value rest ih => exact ih h
  | component tag children rest ihc ihr =>
      rw [shown, Node.shown, unresolvedIn?_component] at h
      cases hbinding : registry.resolve? tag.name with
      | none =>
          rw [hbinding] at h
          cases h
      | some binding =>
          rw [hbinding, Option.isNone_some, if_neg Bool.false_ne_true, Option.or_eq_none_iff] at h
          rw [bound_component hbinding]
          by_cases hvoid : binding.element ∈ voidTags
          · rw [shown_void hvoid, components_element, components_nil, List.nil_append, ihr h.2]
          · rw [shown_element hvoid, components_element, ihc h.1, ihr h.2, List.nil_append]
  | element head children rest ihc ihr =>
      rw [bound, Node.bound]
      by_cases hvoid : head.tag ∈ voidTags
      · rw [shown_void hvoid, unresolvedIn?_element, unresolvedIn?_nil, Option.none_or] at h
        rw [shown_void hvoid, components_element, components_nil, List.nil_append, ihr h]
      · rw [shown_element hvoid, unresolvedIn?_element, Option.or_eq_none_iff] at h
        rw [shown_element hvoid, components_element, ihc h.1, ihr h.2, List.nil_append]

/-! ## End tags -/

/-- Some event is the end of an element without content. -/
def EndsVoid (es : List Event) : Prop :=
  ∃ tag ∈ voidTags, Event.endTag tag ∈ es

section

variable {es fs : List Event}

theorem endsVoid_append : EndsVoid (es ++ fs) ↔ EndsVoid es ∨ EndsVoid fs := by
  unfold EndsVoid
  simp only [List.mem_append, and_or_left, exists_or]

theorem endsVoid_endTag (tag : String) : EndsVoid [.endTag tag] ↔ tag ∈ voidTags := by
  unfold EndsVoid
  simp

theorem not_endsVoid_startTag (tag : String) (attributes : List (String × String)) :
    ¬EndsVoid [.startTag tag attributes] := by
  rintro ⟨other, -, hmem⟩
  cases List.mem_singleton.1 hmem

theorem not_endsVoid_text (value : String) : ¬EndsVoid [.text value] := by
  rintro ⟨other, -, hmem⟩
  cases List.mem_singleton.1 hmem

theorem not_endsVoid_breakEvents (tag : String) : ¬EndsVoid (breakEvents tag) := by
  unfold breakEvents
  split
  · exact not_endsVoid_text "\n"
  · rintro ⟨other, -, hmem⟩
    cases hmem

theorem endsVoid_filter : EndsVoid (es.filter Event.isTag) ↔ EndsVoid es := by
  unfold EndsVoid
  simp [Event.isTag]

end

/-- An end tag of an element without content is the end tag of a component. -/
theorem endsVoid_events {registry : Registry} {t : Tree}
    (h : unresolvedIn? registry (shown t) = none) :
    EndsVoid (events registry t) ↔ HasVoidBinding registry t := by
  induction t using tree_induction with
  | nil => exact iff_of_false (fun ⟨_, _, hmem⟩ => by cases hmem) hasVoidBinding_nil
  | text value rest ih =>
      rw [events_text, endsVoid_append, or_iff_right (not_endsVoid_text value)]
      exact ih h
  | component tag children rest ihc ihr =>
      rw [shown, Node.shown, unresolvedIn?_component] at h
      cases hbinding : registry.resolve? tag.name with
      | none =>
          rw [hbinding] at h
          cases h
      | some binding =>
          rw [hbinding, Option.isNone_some, if_neg Bool.false_ne_true, Option.or_eq_none_iff] at h
          rw [events_component hbinding, hasVoidBinding_component, boundToVoid_iff hbinding]
          simp only [endsVoid_append, endsVoid_endTag, not_endsVoid_startTag, not_endsVoid_text,
            false_or, or_false, ihc h.1, ihr h.2]
          rw [or_comm (a := HasVoidBinding registry children), or_assoc]
  | element head children rest ihc ihr =>
      by_cases hvoid : head.tag ∈ voidTags
      · rw [shown_void hvoid, unresolvedIn?_element, unresolvedIn?_nil, Option.none_or] at h
        rw [events_void hvoid, hasVoidBinding_void hvoid]
        simp only [endsVoid_append, not_endsVoid_startTag, not_endsVoid_breakEvents, false_or,
          ihr h]
      · rw [shown_element hvoid, unresolvedIn?_element, Option.or_eq_none_iff] at h
        rw [events_element hvoid, hasVoidBinding_element hvoid]
        simp only [endsVoid_append, endsVoid_endTag, not_endsVoid_startTag,
          not_endsVoid_breakEvents, false_or, or_false, hvoid, ihc h.1, ihr h.2]

/-- A page is the page of its tree with elements in the place of components, with line feeds added,
exactly if no component that is rendered is bound to an element without content.  Nor is there
otherwise an end tag of such an element on the page, whoever reads it. -/
theorem toHtml_bound_iff {registry : Registry} {tree : Tree} {html : String}
    (h : toHtml registry tree = .ok html) :
    (∃ plain, toHtml registry (bound registry tree) = .ok plain ∧
      components (shown (bound registry tree)) = [] ∧
      (AddsBreaks plain.toList html.toList ↔ ¬HasVoidBinding registry tree)) ∧
    (html = write (events registry tree) ∧
      (EndsVoid (events registry tree) ↔ HasVoidBinding registry tree)) ∧
    (WellNamed registry tree → ∃ tokens, tokenize html = some tokens ∧
      (EndsVoid tokens ↔ HasVoidBinding registry tree)) := by
  have hknown := exists_toHtml_iff.1 ⟨html, h⟩
  obtain ⟨plain, hplain, hstands⟩ := exists_standsFor h
  refine ⟨⟨plain, hplain, components_shown_bound hknown, hstands.addsBreaks_iff⟩,
    ⟨eq_write_of_toHtml h, endsVoid_events hknown⟩, fun hnames => ?_⟩
  obtain ⟨named, hnamed, hspells⟩ := exists_spells hnames
  have hsame : named = html := by
    rw [h] at hnamed
    exact (Except.ok.inj hnamed).symm
  subst hsame
  refine ⟨_, tokenize_of_spells hspells, ?_⟩
  rw [← endsVoid_filter, filter_isTag_mergeTexts, endsVoid_filter, endsVoid_events hknown]

/-- A registry with pictures, and with frames for them. -/
def galleryRegistry : Registry :=
  Registry.ofBindings [{ name := "Picture", element := "img" },
    { name := "Frame", element := "figure" }]

/-- A frame with a paragraph in it. -/
def framedText : Tree :=
  [.component { name := "Frame", props := Dict.ofList [("width", .literal "2")] }
    [.element { tag := "p" } [.text "a", .element { tag := "br" } []]]]

theorem toHtml_bound_of_framedText :
    toHtml galleryRegistry framedText =
      .ok "<figure data-component=\"Frame\" width=\"2\"><p>a<br></p>\n</figure>\n" ∧
    WellNamed galleryRegistry framedText ∧
    ∃ plain tokens, toHtml galleryRegistry (bound galleryRegistry framedText) = .ok plain ∧
      plain = "<figure data-component=\"Frame\" width=\"2\"><p>a<br></p>\n</figure>" ∧
      AddsBreaks plain.toList
        "<figure data-component=\"Frame\" width=\"2\"><p>a<br></p>\n</figure>\n".toList ∧
      tokenize "<figure data-component=\"Frame\" width=\"2\"><p>a<br></p>\n</figure>\n" =
        some tokens ∧
      ¬EndsVoid tokens := by
  have hhtml : toHtml galleryRegistry framedText =
      .ok "<figure data-component=\"Frame\" width=\"2\"><p>a<br></p>\n</figure>\n" := by
    decide +kernel
  have hnames : WellNamed galleryRegistry framedText := by decide +kernel
  have hbound : toHtml galleryRegistry (bound galleryRegistry framedText) =
      .ok "<figure data-component=\"Frame\" width=\"2\"><p>a<br></p>\n</figure>" := by
    decide +kernel
  have hnone : ¬HasVoidBinding galleryRegistry framedText := by decide +kernel
  obtain ⟨⟨plain, hplain, -, hadds⟩, -, hread⟩ := toHtml_bound_iff hhtml
  obtain ⟨tokens, htokens, hends⟩ := hread hnames
  refine ⟨hhtml, hnames, plain, tokens, hplain, ?_, hadds.2 hnone, htokens, mt hends.1 hnone⟩
  rw [hbound] at hplain
  exact (Except.ok.inj hplain).symm

/-- A picture is closed by an end tag, which an image has not. -/
theorem not_addsBreaks_picture :
    toHtml galleryRegistry [.component { name := "Picture" } []] =
      .ok "<img data-component=\"Picture\"></img>\n" ∧
    toHtml galleryRegistry (bound galleryRegistry [.component { name := "Picture" } []]) =
      .ok "<img data-component=\"Picture\">" ∧
    ¬AddsBreaks "<img data-component=\"Picture\">".toList
      "<img data-component=\"Picture\"></img>\n".toList ∧
    tokenize "<img data-component=\"Picture\"></img>\n" =
      some [.startTag "img" [("data-component", "Picture")], .endTag "img", .text "\n"] := by
  refine ⟨by decide +kernel, by decide +kernel, fun hadds => ?_, by decide +kernel⟩
  have hvisible := hadds.visible_eq
  revert hvisible
  decide +kernel

end Folio
