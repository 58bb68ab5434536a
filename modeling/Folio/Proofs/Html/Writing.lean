import Folio.Proofs.Html.RoundTrip

/-!
# Writing events

The HTML of any tree is its events written one after the other, whatever names its tags and
attributes have.  So what is said of the events of a tree is said of the page, piece by piece.
-/

namespace Folio

open Html

/-! ## Written events -/

/-- What is written for an event. -/
def Html.Event.html : Event → String
  | .startTag tag attributes => "<" ++ tag ++ attributesHtml attributes ++ ">"
  | .endTag tag => Folio.endTag tag
  | .text value => escapeText value

/-- What is written for events, one after the other. -/
def Html.write : List Event → String
  | [] => ""
  | event :: rest => event.html ++ write rest

theorem Html.write_append (es fs : List Event) : write (es ++ fs) = write es ++ write fs := by
  induction es with
  | nil => rw [List.nil_append, write, String.empty_append]
  | cons event es ih => rw [List.cons_append, write, write, ih, String.append_assoc]

theorem Html.write_singleton (event : Event) : write [event] = event.html := by
  rw [write, write, String.append_empty]

theorem write_breakEvents (tag : String) : write (breakEvents tag) = blockBreak tag := by
  unfold breakEvents blockBreak
  by_cases hblock : tag ∈ blockTags
  · rw [if_pos hblock, if_pos (List.contains_iff_mem.2 hblock), write_singleton]
    rfl
  · rw [if_neg hblock, if_neg (mt List.contains_iff_mem.1 hblock)]
    rfl

/-- The page is the events of its tree, written. -/
theorem eq_write_of_toHtml {registry : Registry} {t : Tree} {html : String}
    (h : toHtml registry t = .ok html) : html = write (events registry t) := by
  induction t using tree_induction generalizing html with
  | nil =>
      cases h
      rfl
  | text value rest ih =>
      obtain ⟨after, hafter, rfl⟩ := toHtml_text_eq_ok_iff.1 h
      rw [events_text, write_append, write_singleton, ih hafter]
      rfl
  | component tag children rest ihc ihr =>
      cases hbinding : registry.resolve? tag.name with
      | none =>
          obtain ⟨first, after, hfirst, -, -⟩ := toHtml_cons_eq_ok_iff.1 h
          rw [Node.toHtml, hbinding] at hfirst
          cases hfirst
      | some binding =>
          obtain ⟨inner, after, hinner, hafter, rfl⟩ := (toHtml_component_eq_ok_iff hbinding).1 h
          rw [events_component hbinding, ihc hinner, ihr hafter]
          simp only [write_append, write_singleton]
          rfl
  | element head children rest ihc ihr =>
      by_cases hvoid : head.tag ∈ voidTags
      · obtain ⟨after, hafter, rfl⟩ := (toHtml_void_eq_ok_iff hvoid).1 h
        rw [events_void hvoid, ihr hafter]
        simp only [write_append, write_singleton, write_breakEvents]
        rfl
      · obtain ⟨inner, after, hinner, hafter, rfl⟩ := (toHtml_element_eq_ok_iff hvoid).1 h
        rw [events_element hvoid, ihc hinner, ihr hafter]
        simp only [write_append, write_singleton, write_breakEvents]
        rfl

/-! ## Components -/

mutual

/-- The components of a node, in document order. -/
def Node.components : Node → List ComponentHead
  | .element _ children => components children
  | .component tag children => tag :: components children
  | .text _ => []

/-- The components of a tree, in document order. -/
def components : List Node → List ComponentHead
  | [] => []
  | node :: nodes => node.components ++ components nodes

end

section

variable (head : ElementHead) (tag : ComponentHead) (value : String) (children rest : List Node)

@[simp] theorem components_nil : components [] = [] := rfl

@[simp] theorem components_element : components (.element head children :: rest) =
    components children ++ components rest := rfl

@[simp] theorem components_component : components (.component tag children :: rest) =
    tag :: (components children ++ components rest) := rfl

@[simp] theorem components_text : components (.text value :: rest) = components rest := rfl

end

end Folio
