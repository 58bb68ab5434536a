import Folio.Proofs.Html.Rendering
import Folio.Slug
import Mathlib.Data.List.Basic

/-!
# Start tags of a page

Every element that is rendered leaves its start tag in the page, and the start tag shows each of its
attributes.  A value that needs no escaping, such as a slug, stands there as it is.
-/

namespace Folio

/-! ## Texts inside texts -/

/-- The first text stands somewhere in the second one. -/
def Occurs (part text : String) : Prop :=
  ∃ before after, text = before ++ part ++ after

namespace Occurs

variable {part text : String}

theorem refl (text : String) : Occurs text text := by
  refine ⟨"", "", ?_⟩
  rw [String.empty_append, String.append_empty]

theorem append_left (h : Occurs part text) (front : String) : Occurs part (front ++ text) := by
  obtain ⟨before, after, rfl⟩ := h
  refine ⟨front ++ before, after, ?_⟩
  simp only [String.append_assoc]

theorem append_right (h : Occurs part text) (tail : String) : Occurs part (text ++ tail) := by
  obtain ⟨before, after, rfl⟩ := h
  refine ⟨before, after ++ tail, ?_⟩
  simp only [String.append_assoc]

end Occurs

/-! ## Tags -/

/-- The start tag of every element that is rendered stands in the page. -/
theorem occurs_startTag {registry : Registry} {t : Tree} {html : String}
    (h : toHtml registry t = .ok html) :
    ∀ e ∈ elements (shown t), Occurs (startTag e.head.tag e.head.attributes) html := by
  induction t using tree_induction generalizing html with
  | nil =>
      intro e he
      cases he
  | text value rest ih =>
      obtain ⟨after, hafter, rfl⟩ := toHtml_text_eq_ok_iff.1 h
      intro e he
      exact (ih hafter e he).append_left _
  | component tag children rest ihc ihr =>
      cases hbinding : registry.resolve? tag.name with
      | none =>
          obtain ⟨first, after, hfirst, -, -⟩ := toHtml_cons_eq_ok_iff.1 h
          rw [Node.toHtml, hbinding] at hfirst
          cases hfirst
      | some binding =>
          obtain ⟨inner, after, hinner, hafter, rfl⟩ := (toHtml_component_eq_ok_iff hbinding).1 h
          intro e he
          rw [shown, Node.shown, elements_component] at he
          rcases List.mem_append.1 he with he | he
          · have hbelow := (ihc hinner e he).append_left
              (startTag binding.element (componentAttributes tag))
            exact ((hbelow.append_right _).append_right _).append_right _
          · exact (ihr hafter e he).append_left _
  | element head children rest ihc ihr =>
      have hself := Occurs.refl (startTag head.tag head.attributes)
      intro e he
      by_cases hvoid : head.tag ∈ voidTags
      · obtain ⟨after, hafter, rfl⟩ := (toHtml_void_eq_ok_iff hvoid).1 h
        rw [shown_void hvoid, elements_element, elements_nil, List.nil_append] at he
        rcases List.mem_cons.1 he with rfl | he
        · exact (hself.append_right _).append_right _
        · exact (ihr hafter e he).append_left _
      · obtain ⟨inner, after, hinner, hafter, rfl⟩ := (toHtml_element_eq_ok_iff hvoid).1 h
        rw [shown_element hvoid, elements_element] at he
        rcases List.mem_cons.1 he with rfl | he
        · exact (((hself.append_right _).append_right _).append_right _).append_right _
        · rcases List.mem_append.1 he with he | he
          · have hbelow := (ihc hinner e he).append_left (startTag head.tag head.attributes)
            exact ((hbelow.append_right _).append_right _).append_right _
          · exact (ihr hafter e he).append_left _

/-! ## Attributes -/

theorem attributesHtml_append (first second : List (String × String)) :
    attributesHtml (first ++ second) = attributesHtml first ++ attributesHtml second := by
  induction first with
  | nil => rw [List.nil_append, attributesHtml, String.empty_append]
  | cons entry first ih =>
      obtain ⟨name, value⟩ := entry
      rw [List.cons_append, attributesHtml, attributesHtml, ih]
      simp only [String.append_assoc]

/-- A start tag in which an attribute has a value. -/
def tagWith (tag name value : String) (before after : List (String × String)) : String :=
  "<" ++ tag ++ attributesHtml before ++ " " ++ name ++ "=\"" ++ value ++ "\"" ++
    attributesHtml after ++ ">"

/-- A start tag shows an attribute whose value is not empty. -/
theorem exists_startTag_eq {attributes : Dict String} {name value : String}
    (h : attributes.get? name = some value) (hvalue : value ≠ "") (tag : String) :
    ∃ before after,
      startTag tag attributes = tagWith tag name (escapeAttribute value) before after := by
  obtain ⟨entry, hfind, rfl⟩ := Option.map_eq_some_iff.1 h
  obtain ⟨hname, before, after, hentries, -⟩ := List.find?_eq_some_iff_append.1 hfind
  obtain ⟨key, value⟩ := entry
  have hkey : key = name := by simpa using hname
  subst hkey
  refine ⟨before, after, ?_⟩
  have hempty : value.isEmpty = false := by simpa using hvalue
  rw [startTag, tagWith, hentries, attributesHtml_append, attributesHtml, hempty]
  simp [String.append_assoc]

/-- A slug needs no escaping. -/
theorem escapeAttribute_slug (text : String) : escapeAttribute (slug text) = slug text := by
  have hplain : ∀ c, isSlugChar c = true → escapeAttributeChar c = [c] := by
    intro c hc
    unfold escapeAttributeChar
    split
    · cases hc
    · cases hc
    · cases hc
    · cases hc
    · rfl
  have hall : ∀ c ∈ (slug text).toList, escapeAttributeChar c = [c] := by
    intro c hm
    rw [slug, String.toList_ofList] at hm
    exact hplain c (isSlugChar_of_mem_slugChars _ _ _ c hm)
  rw [escapeAttribute, List.flatMap_congr hall, List.flatMap_singleton', String.ofList_toList]

end Folio
