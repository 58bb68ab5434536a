import Folio.Proofs.Lower.Visit
import Folio.Proofs.Outline.Tree
import Mathlib.Data.List.Basic
import Mathlib.Data.Nat.Init

/-!
# References to footnotes

Each reference to a footnote is lowered to a mark that shows the number of the footnote: the place
of its identifier among the first references.  Places that were given once stay, so the numbers are
those of the order in which all footnotes are in the end.
-/

namespace Folio.Lower

open Folio.Markdown

/-! ## First occurrences -/

section

variable {α : Type} [DecidableEq α]

theorem nodup_eraseDups (l : List α) : l.eraseDups.Nodup := by
  induction hsize : l.length using Nat.strong_induction_on generalizing l with
  | h size ih =>
      cases l with
      | nil => exact List.nodup_nil
      | cons a l =>
          have hlt : (l.filter fun b => !b == a).length < size := by
            rw [← hsize, List.length_cons]
            exact Nat.lt_succ_of_le (List.length_filter_le _ l)
          rw [List.eraseDups_cons, List.nodup_cons, List.mem_eraseDups]
          exact ⟨by simp, ih _ hlt _ rfl⟩

/-- In a list without repetitions all occurrences are first ones. -/
theorem eraseDups_of_nodup {l : List α} (h : l.Nodup) : l.eraseDups = l := by
  induction l with
  | nil => rfl
  | cons a l ih =>
      rw [List.nodup_cons] at h
      have hother : ∀ b ∈ l, (!b == a) = true := by
        intro b hb
        have hne : b ≠ a := fun heq => h.1 (heq ▸ hb)
        simpa using hne
      rw [List.eraseDups_cons, List.filter_eq_self.2 hother, ih h.2]

/-- What comes later changes nothing about the first occurrences before. -/
theorem isPrefix_eraseDups (l more : List α) : l.eraseDups <+: (l ++ more).eraseDups := by
  rw [List.eraseDups_append]
  exact List.prefix_append _ _

theorem eraseDups_eq_nil_iff {l : List α} : l.eraseDups = [] ↔ l = [] := by
  simp only [List.eq_nil_iff_forall_not_mem, List.mem_eraseDups]

theorem eraseDups_concat (l : List α) (a : α) :
    (l ++ [a]).eraseDups = if a ∈ l.eraseDups then l.eraseDups else l.eraseDups ++ [a] := by
  rw [List.eraseDups_append]
  by_cases h : a ∈ l
  · simp [List.removeAll, h]
  · simp [List.removeAll, h, List.eraseDups_cons]

end

/-! ## The order of first references -/

/-- The footnote that is referred to by what lowering comes across. -/
def Visit.reference? : Visit → Option String
  | .leaf _ (.footnoteReference identifier _) _ => some identifier
  | _ => none

/-- The identifiers of the references to footnotes among some visits. -/
def referencesIn (seen : List Visit) : List String :=
  seen.filterMap Visit.reference?

theorem referencesIn_append (first second : List Visit) :
    referencesIn (first ++ second) = referencesIn first ++ referencesIn second :=
  List.filterMap_append

/-- The number of a footnote in an order of footnotes. -/
def numberIn (order : List String) (identifier : String) : Nat :=
  order.idxOf identifier + 1

/-- A longer order keeps the numbers. -/
theorem numberIn_of_isPrefix {order final : List String} (h : order <+: final) {identifier : String}
    (hm : identifier ∈ order) : numberIn final identifier = numberIn order identifier := by
  obtain ⟨more, rfl⟩ := h
  rw [numberIn, numberIn, List.idxOf_append_of_mem hm]

theorem State.order_refer (s : State) (identifier : String) :
    (s.refer identifier).2.order =
      if identifier ∈ s.order then s.order else s.order ++ [identifier] := by
  rw [State.refer, List.contains_eq_mem]
  by_cases h : identifier ∈ s.order
  · simp [h]
  · simp [h]

theorem State.mem_order_refer (s : State) (identifier : String) :
    identifier ∈ (s.refer identifier).2.order := by
  rw [s.order_refer]
  split
  · assumption
  · simp

/-- A reference gets the number that its footnote has from then on. -/
theorem State.number_refer (s : State) (identifier : String) :
    (s.refer identifier).1 = numberIn (s.refer identifier).2.order identifier := by
  rw [s.order_refer, State.refer, List.contains_eq_mem, numberIn]
  by_cases h : identifier ∈ s.order
  · simp [h]
  · simp [h, List.idxOf_append]

theorem State.order_noteUnclosed (s : State) (marker : Char) (start : Point) :
    (s.noteUnclosed marker start).order = s.order := by
  rw [State.noteUnclosed]
  split <;> rfl

/-- A leaf that is no reference leaves the order as it is. -/
theorem order_lowerLeaf {ctx : Context} {width : Nat} {content : Leaf} {span : Option Span}
    {s t : State} {nodes : List Node} (h : lowerLeaf ctx width content span s = (nodes, t))
    (hother : ∀ identifier label, content ≠ .footnoteReference identifier label) :
    t.order = s.order := by
  cases content with
  | footnoteReference identifier label => exact (hother identifier label rfl).elim
  | code value language note =>
      simp only [lowerLeaf] at h
      split at h
      · cases h
        rfl
      · cases h
        rfl
      · cases h
        exact s.order_noteUnclosed _ _
  | imageReference identifier label alt form =>
      simp only [lowerLeaf] at h
      split at h
      · cases h
        rfl
      · cases h
        rfl
  | _ =>
      cases h
      rfl

/-- A leaf is a reference to a footnote, or no visit of it refers to one. -/
theorem reference_cases (content : Leaf) :
    (∃ identifier label, content = .footnoteReference identifier label) ∨
      ((∀ identifier label, content ≠ .footnoteReference identifier label) ∧
        ∀ width span, referencesIn [.leaf width content span] = []) := by
  cases content with
  | footnoteReference identifier label => exact Or.inl ⟨identifier, label, rfl⟩
  | _ => exact Or.inr ⟨fun _ _ hne => (nomatch hne), fun _ _ => rfl⟩

/-- The order after lowering has the first references of all that was lowered. -/
theorem Woven.order_eq {ctx : Context} {seen : List Visit} {s t : State} {nodes : List Node}
    (h : Woven ctx seen s nodes t) {known : List String} (hknown : s.order = known.eraseDups) :
    t.order = (known ++ referencesIn seen).eraseDups := by
  induction h generalizing known with
  | nil => rw [referencesIn, List.filterMap_nil, List.append_nil, hknown]
  | @leaf width content span s t nodes hleaf =>
      rcases reference_cases content with ⟨identifier, label, rfl⟩ | ⟨hother, hnone⟩
      · have hstate : (s.refer identifier).2 = t := congrArg Prod.snd hleaf
        have hone : referencesIn [.leaf width (.footnoteReference identifier label) span] =
            [identifier] := rfl
        rw [← hstate, s.order_refer, hknown, hone, eraseDups_concat]
      · rw [order_lowerLeaf hleaf hother, hnone, List.append_nil, hknown]
  | box =>
      have hnone : ∀ checked, referencesIn [.box checked] = [] := fun _ => rfl
      rw [hnone, List.append_nil, hknown]
  | append _ _ ihfirst ihsecond =>
      rw [ihsecond (ihfirst hknown), referencesIn_append, List.append_assoc]
  | element _ ih => exact ih hknown
  | component _ ih => exact ih hknown

/-- No footnote is in the order twice. -/
theorem Woven.nodup {ctx : Context} {seen : List Visit} {s t : State} {nodes : List Node}
    (h : Woven ctx seen s nodes t) (hnodup : s.order.Nodup) : t.order.Nodup := by
  rw [h.order_eq (eraseDups_of_nodup hnodup).symm]
  exact nodup_eraseDups _

/-! ## Marks -/

/-- A mark that shows a number and links to the footnote with an identifier, with an id of its
own. -/
def IsMark (identifier : String) (number : Nat) (node : Node) : Prop :=
  ∃ head : ElementHead, node = plain "sup" [.element head [.text (toString number)]] ∧
    head.tag = "a" ∧ head.attribute? "href" = some ("#fn-" ++ identifier) ∧
    head.attribute? "id" = some ("fnref-" ++ identifier)

theorem isMark_footnoteMark (identifier : String) (number : Nat) :
    IsMark identifier number (footnoteMark identifier number) := by
  refine ⟨_, rfl, by simp [ElementHead.ofTag], ?_, ?_⟩
  · rw [ElementHead.attribute?_setAttribute, if_neg (by decide),
      ElementHead.attribute?_setAttribute, if_neg (by decide),
      ElementHead.attribute?_setAttribute, if_pos rfl]
  · rw [ElementHead.attribute?_setAttribute, if_neg (by decide),
      ElementHead.attribute?_setAttribute, if_pos rfl]

/-- Nodes with a mark for each of some references, in their order. -/
inductive Marked (number : String → Nat) : List String → List Node → Prop
  | mark {identifier : String} {node : Node} :
      IsMark identifier (number identifier) node → Marked number [identifier] [node]
  | other {nodes : List Node} : Marked number [] nodes
  | append {first second : List String} {nodes others : List Node} :
      Marked number first nodes → Marked number second others →
      Marked number (first ++ second) (nodes ++ others)
  | element {head : ElementHead} {identifiers : List String} {children : List Node} :
      Marked number identifiers children → Marked number identifiers [.element head children]
  | component {head : ComponentHead} {identifiers : List String} {children : List Node} :
      Marked number identifiers children → Marked number identifiers [.component head children]

/-- What is lowered has marks with the numbers of the order in which the footnotes are in the
end. -/
theorem Woven.marked {ctx : Context} {seen : List Visit} {s t : State} {nodes : List Node}
    (h : Woven ctx seen s nodes t) {known : List String} (hknown : s.order = known.eraseDups)
    {final : List String} (hfinal : t.order <+: final) :
    Marked (numberIn final) (referencesIn seen) nodes := by
  induction h generalizing known with
  | nil => exact .other
  | @leaf width content span s t nodes hleaf =>
      rcases reference_cases content with ⟨identifier, label, rfl⟩ | ⟨-, hnone⟩
      · have hnodes : [footnoteMark identifier (s.refer identifier).1] = nodes :=
          congrArg Prod.fst hleaf
        have hstate : (s.refer identifier).2 = t := congrArg Prod.snd hleaf
        have hnumber : (s.refer identifier).1 = numberIn final identifier := by
          rw [← hstate] at hfinal
          rw [numberIn_of_isPrefix hfinal (s.mem_order_refer identifier), s.number_refer]
        rw [hnumber] at hnodes
        rw [← hnodes]
        exact .mark (isMark_footnoteMark identifier _)
      · rw [hnone]
        exact .other
  | box => exact .other
  | @append first second s t u nodes others hfirst hsecond ihfirst ihsecond =>
      -- The numbers of the first part stay through the second one.
      have hmiddle := hfirst.order_eq hknown
      have hstart := isPrefix_eraseDups (known ++ referencesIn first) (referencesIn second)
      rw [← hmiddle, ← hsecond.order_eq hmiddle] at hstart
      rw [referencesIn_append]
      exact .append (ihfirst hknown (hstart.trans hfinal)) (ihsecond hmiddle hfinal)
  | element _ ih => exact .element (ih hknown hfinal)
  | component _ ih => exact .component (ih hknown hfinal)

/-- Each of the references has an anchor among the elements. -/
theorem Marked.exists_anchor {number : String → Nat} {identifiers : List String} {nodes : List Node}
    (h : Marked number identifiers nodes) {identifier : String} (hm : identifier ∈ identifiers) :
    ∃ anchor ∈ elements nodes, anchor.head.tag = "a" ∧
      anchor.head.attribute? "id" = some ("fnref-" ++ identifier) := by
  induction h with
  | mark hmark =>
      obtain ⟨head, rfl, htag, -, hid⟩ := hmark
      rw [List.mem_singleton] at hm
      subst hm
      exact ⟨⟨head, [.text (toString (number identifier))]⟩, by simp [plain], htag, hid⟩
  | other => cases hm
  | append _ _ ihfirst ihsecond =>
      rw [elements_append]
      rcases List.mem_append.1 hm with hm | hm
      · obtain ⟨anchor, hanchor, hmark⟩ := ihfirst hm
        exact ⟨anchor, List.mem_append_left _ hanchor, hmark⟩
      · obtain ⟨anchor, hanchor, hmark⟩ := ihsecond hm
        exact ⟨anchor, List.mem_append_right _ hanchor, hmark⟩
  | element _ ih =>
      obtain ⟨anchor, hanchor, hmark⟩ := ih hm
      exact ⟨anchor, by simp [hanchor], hmark⟩
  | component _ ih =>
      obtain ⟨anchor, hanchor, hmark⟩ := ih hm
      exact ⟨anchor, by simp [hanchor], hmark⟩

end Folio.Lower
