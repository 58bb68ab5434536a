import Folio.Html
import Folio.Proofs.Outcome
import Folio.Proofs.Tree.Induction

/-!
# Rendering trees

What HTML a tree is rendered to, by its first node, and when that fails.  The children of an element
without content are not looked at; of what is left, the first component that the registry does not
know makes rendering fail.
-/

namespace Folio

/-! ## The first node of a tree -/

section

variable {registry : Registry} {head : ElementHead} {tag : ComponentHead} {node : Node}
  {children rest : List Node} {html : String}

theorem toHtml_cons_eq_ok_iff : toHtml registry (node :: rest) = .ok html ↔
    ∃ first after, node.toHtml registry = .ok first ∧ toHtml registry rest = .ok after ∧
      html = first ++ after :=
  bind_bind_pure_eq_ok_iff

theorem toHtml_text_eq_ok_iff {value : String} :
    toHtml registry (.text value :: rest) = .ok html ↔
      ∃ after, toHtml registry rest = .ok after ∧ html = escapeText value ++ after :=
  bind_pure_eq_ok_iff

/-- An element without content is its start tag. -/
theorem toHtml_void_eq_ok_iff (hvoid : head.tag ∈ voidTags) :
    toHtml registry (.element head children :: rest) = .ok html ↔
      ∃ after, toHtml registry rest = .ok after ∧
        html = startTag head.tag head.attributes ++ blockBreak head.tag ++ after := by
  have hnode : (Node.element head children).toHtml registry =
      .ok (startTag head.tag head.attributes ++ blockBreak head.tag) := by
    rw [Node.toHtml, if_pos (List.contains_iff_mem.2 hvoid)]
  rw [toHtml, hnode]
  exact bind_pure_eq_ok_iff

theorem toHtml_element_eq_ok_iff (hvoid : head.tag ∉ voidTags) :
    toHtml registry (.element head children :: rest) = .ok html ↔
      ∃ inner after, toHtml registry children = .ok inner ∧ toHtml registry rest = .ok after ∧
        html = startTag head.tag head.attributes ++ inner ++ endTag head.tag ++
          blockBreak head.tag ++ after := by
  rw [toHtml_cons_eq_ok_iff, Node.toHtml, if_neg (mt List.contains_iff_mem.1 hvoid)]
  constructor
  · rintro ⟨first, after, hfirst, hafter, rfl⟩
    obtain ⟨inner, hinner, rfl⟩ := bind_pure_eq_ok_iff.1 hfirst
    exact ⟨inner, after, hinner, hafter, rfl⟩
  · rintro ⟨inner, after, hinner, hafter, rfl⟩
    exact ⟨_, after, bind_pure_eq_ok_iff.2 ⟨inner, hinner, rfl⟩, hafter, rfl⟩

/-- A component is rendered as the element that it is bound to. -/
theorem toHtml_component_eq_ok_iff {binding : Binding}
    (hbinding : registry.resolve? tag.name = some binding) :
    toHtml registry (.component tag children :: rest) = .ok html ↔
      ∃ inner after, toHtml registry children = .ok inner ∧ toHtml registry rest = .ok after ∧
        html = startTag binding.element (componentAttributes tag) ++ inner ++
          endTag binding.element ++ "\n" ++ after := by
  rw [toHtml_cons_eq_ok_iff, Node.toHtml, hbinding]
  constructor
  · rintro ⟨first, after, hfirst, hafter, rfl⟩
    obtain ⟨inner, hinner, rfl⟩ := bind_pure_eq_ok_iff.1 hfirst
    exact ⟨inner, after, hinner, hafter, rfl⟩
  · rintro ⟨inner, after, hinner, hafter, rfl⟩
    exact ⟨_, after, bind_pure_eq_ok_iff.2 ⟨inner, hinner, rfl⟩, hafter, rfl⟩

end

/-! ## What is looked at -/

mutual

/-- A node without the children of elements that have no content. -/
def Node.shown : Node → Node
  | .element head children =>
    .element head (if head.tag ∈ voidTags then [] else shown children)
  | .component head children => .component head (shown children)
  | .text value => .text value

/-- A tree without the children of elements that have no content: what is rendered of it. -/
def shown : List Node → List Node
  | [] => []
  | node :: nodes => node.shown :: shown nodes

end

/-- The elements that have no content have no children. -/
def ChildlessVoids (tree : Tree) : Prop :=
  ∀ e ∈ elements tree, e.head.tag ∈ voidTags → e.children = []

section

variable {head : ElementHead} {tag : ComponentHead} {children rest : List Node}

theorem shown_void (hvoid : head.tag ∈ voidTags) :
    shown (.element head children :: rest) = .element head [] :: shown rest := by
  rw [shown, Node.shown, if_pos hvoid]

theorem shown_element (hvoid : head.tag ∉ voidTags) :
    shown (.element head children :: rest) = .element head (shown children) :: shown rest := by
  rw [shown, Node.shown, if_neg hvoid]

theorem childlessVoids_element : ChildlessVoids (.element head children :: rest) ↔
    (head.tag ∈ voidTags → children = []) ∧ ChildlessVoids children ∧ ChildlessVoids rest := by
  unfold ChildlessVoids
  rw [elements_element, List.forall_mem_cons, List.forall_mem_append]

theorem childlessVoids_component : ChildlessVoids (.component tag children :: rest) ↔
    ChildlessVoids children ∧ ChildlessVoids rest := by
  unfold ChildlessVoids
  rw [elements_component, List.forall_mem_append]

/-- All of a tree is rendered if there is nothing below the elements without content. -/
theorem shown_eq_self {t : Tree} (h : ChildlessVoids t) : shown t = t := by
  induction t using tree_induction with
  | nil => rfl
  | text value rest ih =>
      have hrest : shown rest = rest := ih h
      rw [shown, Node.shown, hrest]
  | component tag children rest ihc ihr =>
      obtain ⟨hc, hr⟩ := childlessVoids_component.1 h
      rw [shown, Node.shown, ihc hc, ihr hr]
  | element head children rest ihc ihr =>
      obtain ⟨hnone, hc, hr⟩ := childlessVoids_element.1 h
      by_cases hvoid : head.tag ∈ voidTags
      · rw [shown_void hvoid, ihr hr, hnone hvoid]
      · rw [shown_element hvoid, ihc hc, ihr hr]

/-- A registry that knows all components of a tree knows those that are rendered. -/
theorem unresolvedIn?_shown_eq_none {registry : Registry} {t : Tree}
    (h : unresolvedIn? registry t = none) : unresolvedIn? registry (shown t) = none := by
  induction t using tree_induction with
  | nil => rfl
  | text value rest ih => exact ih h
  | component tag children rest ihc ihr =>
      rw [unresolvedIn?_component] at h
      by_cases hnone : (registry.resolve? tag.name).isNone
      · rw [if_pos hnone] at h
        cases h
      · rw [if_neg hnone, Option.or_eq_none_iff] at h
        rw [shown, Node.shown, unresolvedIn?_component, if_neg hnone, ihc h.1, ihr h.2]
        rfl
  | element head children rest ihc ihr =>
      rw [unresolvedIn?_element, Option.or_eq_none_iff] at h
      by_cases hvoid : head.tag ∈ voidTags
      · rw [shown_void hvoid, unresolvedIn?_element, ihr h.2]
        rfl
      · rw [shown_element hvoid, unresolvedIn?_element, ihc h.1, ihr h.2]
        rfl

end

/-! ## Failures -/

/-- A step gives a text if nothing was found, and otherwise fails for the component that was. -/
def FailsFor (found : Option ComponentHead) (outcome : Except CompileError String) : Prop :=
  (found = none ∧ ∃ text, outcome = .ok text) ∨
    ∃ component, found = some component ∧ outcome = .error (unresolved component)

namespace FailsFor

variable {found later : Option ComponentHead} {x y : Except CompileError String}

theorem map (h : FailsFor found x) (g : String → String) :
    FailsFor found (x >>= fun a => pure (g a)) := by
  rcases h with ⟨hfound, a, rfl⟩ | ⟨component, hfound, rfl⟩
  · exact Or.inl ⟨hfound, g a, rfl⟩
  · exact Or.inr ⟨component, hfound, rfl⟩

/-- Of two steps the first one that fails counts. -/
theorem bind (hx : FailsFor found x) (hy : FailsFor later y) (g : String → String → String) :
    FailsFor (found.or later) (x >>= fun a => y >>= fun b => pure (g a b)) := by
  rcases hx with ⟨rfl, a, rfl⟩ | ⟨component, rfl, rfl⟩
  · rw [Option.none_or]
    exact hy.map (g a)
  · exact Or.inr ⟨component, rfl, rfl⟩

end FailsFor

/-- Rendering fails for the first component among what is rendered that the registry does not know,
and succeeds if there is none. -/
theorem failsFor_toHtml (registry : Registry) (t : Tree) :
    FailsFor (unresolvedIn? registry (shown t)) (toHtml registry t) := by
  -- Both walks visit the children of a node before what comes after it.
  induction t using tree_induction with
  | nil => exact Or.inl ⟨rfl, "", rfl⟩
  | text value rest ih => exact ih.map (escapeText value ++ ·)
  | component tag children rest ihc ihr =>
      rw [shown, Node.shown, unresolvedIn?_component, toHtml, Node.toHtml]
      cases hbinding : registry.resolve? tag.name with
      | none => exact Or.inr ⟨tag, rfl, rfl⟩
      | some binding => exact (ihc.map _).bind ihr _
  | element head children rest ihc ihr =>
      by_cases hvoid : head.tag ∈ voidTags
      · rw [shown_void hvoid, unresolvedIn?_element, toHtml, Node.toHtml,
          if_pos (List.contains_iff_mem.2 hvoid)]
        exact ihr.map _
      · rw [shown_element hvoid, unresolvedIn?_element, toHtml, Node.toHtml,
          if_neg (mt List.contains_iff_mem.1 hvoid)]
        exact (ihc.map _).bind ihr _

/-- A tree is rendered exactly if all components that are looked at are known. -/
theorem exists_toHtml_iff {registry : Registry} {t : Tree} :
    (∃ html, toHtml registry t = .ok html) ↔ unresolvedIn? registry (shown t) = none := by
  rcases failsFor_toHtml registry t with ⟨hnone, hok⟩ | ⟨component, hsome, herror⟩
  · exact ⟨fun _ => hnone, fun _ => hok⟩
  · rw [hsome, herror]
    constructor
    · rintro ⟨html, hok⟩
      cases hok
    · intro hnone
      cases hnone

/-- A tree whose components are all known is rendered. -/
theorem exists_toHtml {registry : Registry} {t : Tree} (h : unresolvedIn? registry t = none) :
    ∃ html, toHtml registry t = .ok html :=
  exists_toHtml_iff.2 (unresolvedIn?_shown_eq_none h)

end Folio
