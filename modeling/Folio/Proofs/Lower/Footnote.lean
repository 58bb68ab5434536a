import Folio.Proofs.Lower.Reference
import Mathlib.Data.List.Perm.Subperm

/-!
# The section of the footnotes

The identifiers of the footnotes are worked through one by one, and the list of them grows
meanwhile, because what a footnote says may refer to further ones.  Every identifier on the list is
that of a reference in the tree, and none is on it twice, so the end is reached.  Then the list has
exactly the footnotes that can be reached from the body, in the order in which they are first
referred to.
-/

namespace Folio.Lower

open Folio.Markdown

/-! ## Reached footnotes -/

/-- Whether there is a definition of a footnote. -/
def Context.defines (ctx : Context) (identifier : String) : Bool :=
  (ctx.footnote? identifier).isSome

/-- The references in what a footnote says. -/
def Context.referencesOf (ctx : Context) (identifier : String) : List String :=
  referencesIn (visits ctx.source 0 ((ctx.footnote? identifier).getD []))

/-- A footnote that some references lead to, by themselves or through what other footnotes say. -/
inductive Reached (ctx : Context) (references : List String) : String → Prop
  | direct {identifier : String} : identifier ∈ references → Reached ctx references identifier
  | through {identifier other : String} : Reached ctx references identifier →
      other ∈ ctx.referencesOf identifier → Reached ctx references other

/-! ## Items -/

/-- An item for a footnote: it has an id of its own, holds what the footnote says, and links back to
an anchor with the id of a mark. -/
def IsItem (ctx : Context) (order : List String) (identifier : String) (node : Node) : Prop :=
  ∃ (head back : ElementHead) (children : List Node),
    node = .element head (children ++ [.element back [.text "↩"]]) ∧ head.tag = "li" ∧
    head.attribute? "id" = some ("fn-" ++ identifier) ∧ back.tag = "a" ∧
    back.attribute? "href" = some ("#fnref-" ++ identifier) ∧
    Marked (numberIn order) (ctx.referencesOf identifier) children

theorem isItem_footnoteItem {ctx : Context} {order : List String} {identifier : String}
    {children : List Node}
    (h : Marked (numberIn order) (ctx.referencesOf identifier) children) :
    IsItem ctx order identifier (footnoteItem identifier children) := by
  refine ⟨_, _, children, rfl, by simp [ElementHead.ofTag], ?_, by simp [ElementHead.ofTag], ?_, h⟩
  · rw [ElementHead.attribute?_setAttribute, if_pos rfl]
  · rw [ElementHead.attribute?_setAttribute, if_neg (by decide),
      ElementHead.attribute?_setAttribute, if_pos rfl]

/-! ## Working through the list -/

/-- The work from an index of the list on, until the list has come to its end. -/
inductive Collects (ctx : Context) : Nat → State → List Node → State → Prop
  | done {index : Nat} {s : State} : s.order[index]? = none → Collects ctx index s [] s
  | skip {index : Nat} {s t : State} {identifier : String} {items : List Node} :
      s.order[index]? = some identifier → ctx.footnote? identifier = none →
      Collects ctx (index + 1) s items t → Collects ctx index s items t
  | item {index : Nat} {s t u : State} {identifier : String} {parts : List Markup}
      {children items : List Node} :
      s.order[index]? = some identifier → ctx.footnote? identifier = some parts →
      lowerAll ctx 0 parts s = (children, t) → Collects ctx (index + 1) t items u →
      Collects ctx index s (footnoteItem identifier children :: items) u

/-- There is one outcome only. -/
theorem Collects.unique {ctx : Context} {index : Nat} {s t u : State} {items others : List Node}
    (h : Collects ctx index s items t) (hother : Collects ctx index s others u) :
    items = others ∧ t = u := by
  induction h generalizing others with
  | done hnone =>
      cases hother with
      | done _ => exact ⟨rfl, rfl⟩
      | skip hsome _ _ => simp [hnone] at hsome
      | item hsome _ _ _ => simp [hnone] at hsome
  | skip hindex hundefined _ ih =>
      cases hother with
      | done hnone => simp [hindex] at hnone
      | skip _ _ hrest => exact ih hrest
      | item hsome hdefined _ _ =>
          rw [hindex, Option.some_inj] at hsome
          simp [← hsome, hundefined] at hdefined
  | item hindex hdefined hlower _ ih =>
      cases hother with
      | done hnone => simp [hindex] at hnone
      | skip hsome hundefined _ =>
          rw [hindex, Option.some_inj] at hsome
          simp [← hsome, hdefined] at hundefined
      | item hsome hparts hchildren hrest =>
          rw [hindex, Option.some_inj] at hsome
          subst hsome
          rw [hdefined, Option.some_inj] at hparts
          subst hparts
          rw [hlower, Prod.mk.injEq] at hchildren
          obtain ⟨rfl, rfl⟩ := hchildren
          obtain ⟨rfl, rfl⟩ := ih hrest
          exact ⟨rfl, rfl⟩

/-- How far the work has come: what is on the list is what the references in the body and in the
footnotes before the index refer to, without repetitions. -/
structure Progress (ctx : Context) (references : List String) (index : Nat) (s : State) : Prop where
  index_le : index ≤ s.order.length
  order_eq : s.order =
    (references ++ (s.order.take index).flatMap ctx.referencesOf).eraseDups
  reached : ∀ identifier ∈ s.order, Reached ctx references identifier

/-- A footnote without a definition says nothing. -/
theorem referencesOf_eq_nil {ctx : Context} {identifier : String}
    (h : ctx.footnote? identifier = none) : ctx.referencesOf identifier = [] := by
  rw [Context.referencesOf, h]
  rfl

/-- What is referred to in a footnote is referred to in its definition. -/
theorem defines_of_mem_referencesOf {ctx : Context} {identifier other : String}
    (h : other ∈ ctx.referencesOf identifier) : ctx.defines identifier := by
  cases hdefined : ctx.footnote? identifier with
  | none =>
      rw [referencesOf_eq_nil hdefined] at h
      cases h
  | some parts =>
      rw [Context.defines, hdefined]
      rfl

/-- Without references nothing is reached. -/
theorem Reached.references_ne_nil {ctx : Context} {references : List String} {identifier : String}
    (h : Reached ctx references identifier) : references ≠ [] := by
  induction h with
  | direct hm => exact List.ne_nil_of_mem hm
  | through _ _ ih => exact ih

namespace Progress

variable {ctx : Context} {references : List String} {index : Nat} {s t : State}
  {identifier : String}

theorem initial (h : s.order = references.eraseDups) : Progress ctx references 0 s where
  index_le := Nat.zero_le _
  order_eq := by rw [List.take_zero, List.flatMap_nil, List.append_nil, h]
  reached identifier hm := by
    rw [h, List.mem_eraseDups] at hm
    exact .direct hm

/-- The work goes on behind a footnote whose references have been added to the list. -/
theorem step (h : Progress ctx references index s) (hindex : s.order[index]? = some identifier)
    (horder : ∀ known, s.order = known.eraseDups →
      t.order = (known ++ ctx.referencesOf identifier).eraseDups) :
    s.order <+: t.order ∧ Progress ctx references (index + 1) t := by
  obtain ⟨hlt, hidentifier⟩ := List.getElem?_eq_some_iff.1 hindex
  have hnext := horder _ h.order_eq
  have hstart : s.order <+: t.order := by
    rw [h.order_eq, hnext]
    exact isPrefix_eraseDups _ _
  have htake : t.order.take (index + 1) = s.order.take index ++ [identifier] := by
    obtain ⟨more, hmore⟩ := hstart
    rw [← hmore, List.take_append_of_le_length hlt, List.take_add_one, hindex]
    rfl
  refine ⟨hstart, hlt.trans_le hstart.length_le, ?_, fun other hm => ?_⟩
  · rw [htake, List.flatMap_append, List.flatMap_singleton, ← List.append_assoc, ← hnext]
  · rw [hnext, List.mem_eraseDups, List.mem_append, ← List.mem_eraseDups, ← h.order_eq] at hm
    rcases hm with hm | hm
    · exact h.reached other hm
    · exact .through (h.reached identifier (List.mem_of_getElem? hindex)) hm

/-- A footnote without a definition adds nothing to the list. -/
theorem skip (h : Progress ctx references index s) (hindex : s.order[index]? = some identifier)
    (hundefined : ctx.footnote? identifier = none) : Progress ctx references (index + 1) s := by
  refine (h.step hindex fun known hknown => ?_).2
  rw [referencesOf_eq_nil hundefined, List.append_nil, hknown]

/-- What a footnote says adds its references. -/
theorem item (h : Progress ctx references index s) (hindex : s.order[index]? = some identifier)
    {parts : List Markup} (hdefined : ctx.footnote? identifier = some parts) {children : List Node}
    (hlower : lowerAll ctx 0 parts s = (children, t)) :
    s.order <+: t.order ∧ Progress ctx references (index + 1) t := by
  refine h.step hindex fun known hknown => ?_
  rw [((walked ctx parts).all hlower).order_eq hknown, Context.referencesOf, hdefined]
  rfl

/-- At the end the list has what the body refers to and what the footnotes on the list refer to. -/
theorem order_eq_of_done (h : Progress ctx references index s) (hdone : s.order[index]? = none) :
    s.order = (references ++ s.order.flatMap ctx.referencesOf).eraseDups := by
  have horder := h.order_eq
  rwa [List.take_of_length_le (List.getElem?_eq_none_iff.1 hdone)] at horder

/-- Without repetitions the list is no longer than one that has all it may have. -/
theorem length_le (h : Progress ctx references index s) {bound : List String}
    (hbound : ∀ identifier, Reached ctx references identifier → identifier ∈ bound) :
    s.order.length ≤ bound.length := by
  have hnodup : s.order.Nodup := by
    rw [h.order_eq]
    exact nodup_eraseDups _
  exact (hnodup.subperm fun identifier hm => hbound identifier (h.reached identifier hm)).length_le

end Progress

/-! ## The end of the work -/

/-- A list of footnotes when the work is done: those that are reached, in the order of the first
references in the body and then in the footnotes of the list, one after the other. -/
structure Complete (ctx : Context) (references order : List String) : Prop where
  nodup : order.Nodup
  mem_iff : ∀ identifier, identifier ∈ order ↔ Reached ctx references identifier
  order_eq : order = (references ++ order.flatMap ctx.referencesOf).eraseDups

theorem Progress.complete {ctx : Context} {references : List String} {index : Nat} {s : State}
    (h : Progress ctx references index s) (hdone : s.order[index]? = none) :
    Complete ctx references s.order := by
  have horder := h.order_eq_of_done hdone
  refine ⟨?_, fun identifier => ⟨h.reached identifier, fun hreached => ?_⟩, horder⟩
  · rw [horder]
    exact nodup_eraseDups _
  · -- The list has what the body refers to, and with a footnote all that the footnote refers to.
    induction hreached with
    | direct hm =>
        rw [horder, List.mem_eraseDups]
        exact List.mem_append_left _ hm
    | @through identifier other _ hm ih =>
        rw [horder, List.mem_eraseDups]
        exact List.mem_append_right _ (List.mem_flatMap.2 ⟨identifier, ih, hm⟩)

theorem getElem?_of_isPrefix {l final : List String} (h : l <+: final) {index : Nat} {a : String}
    (ha : l[index]? = some a) : final[index]? = some a := by
  obtain ⟨hlt, rfl⟩ := List.getElem?_eq_some_iff.1 ha
  exact List.prefix_iff_getElem?.1 h index hlt

/-- The entries from an index on, by the entry at the index. -/
theorem drop_eq_cons {l : List String} {index : Nat} {a : String} (h : l[index]? = some a) :
    l.drop index = a :: l.drop (index + 1) := by
  obtain ⟨hlt, rfl⟩ := List.getElem?_eq_some_iff.1 h
  exact List.drop_eq_getElem_cons hlt

/-- The work from an index on gives an item for each footnote of the final list from the index on
that has a definition, with the numbers of this list. -/
theorem Collects.complete {ctx : Context} {references : List String} {index : Nat} {s t : State}
    {items : List Node} (h : Collects ctx index s items t)
    (hprogress : Progress ctx references index s) :
    s.order <+: t.order ∧ Complete ctx references t.order ∧
      List.Forall₂ (IsItem ctx t.order) ((t.order.drop index).filter ctx.defines) items := by
  induction h with
  | done hdone =>
      refine ⟨List.prefix_rfl, hprogress.complete hdone, ?_⟩
      rw [List.drop_eq_nil_of_le (List.getElem?_eq_none_iff.1 hdone), List.filter_nil]
      exact .nil
  | @skip index s t identifier items hindex hundefined _ ih =>
      obtain ⟨hstart, hcomplete, hitems⟩ := ih (hprogress.skip hindex hundefined)
      have hfalse : ¬ ctx.defines identifier := by
        rw [Context.defines, hundefined]
        decide
      refine ⟨hstart, hcomplete, ?_⟩
      rwa [drop_eq_cons (getElem?_of_isPrefix hstart hindex), List.filter_cons_of_neg hfalse]
  | @item index s t u identifier parts children items hindex hdefined hlower _ ih =>
      obtain ⟨hadded, hnext⟩ := hprogress.item hindex hdefined hlower
      obtain ⟨hstart, hcomplete, hitems⟩ := ih hnext
      have htrue : ctx.defines identifier := by
        rw [Context.defines, hdefined]
        rfl
      have hmarked : Marked (numberIn u.order) (ctx.referencesOf identifier) children := by
        have hwoven := (walked ctx parts).all hlower
        rw [Context.referencesOf, hdefined]
        exact hwoven.marked hprogress.order_eq hstart
      refine ⟨hadded.trans hstart, hcomplete, ?_⟩
      rw [drop_eq_cons (getElem?_of_isPrefix (hadded.trans hstart) hindex),
        List.filter_cons_of_pos htrue]
      exact .cons (isItem_footnoteItem hmarked) hitems

/-- The work comes to its end in as many steps as there are footnotes that may be reached. -/
theorem collects_footnoteItems {ctx : Context} {references bound : List String}
    (hbound : ∀ identifier, Reached ctx references identifier → identifier ∈ bound)
    {steps index : Nat} {s : State} (hprogress : Progress ctx references index s)
    (hsteps : bound.length ≤ index + steps) :
    Collects ctx index s (footnoteItems ctx steps index s).1
      (footnoteItems ctx steps index s).2 := by
  induction steps generalizing index s with
  | zero =>
      have hlength := hprogress.length_le hbound
      exact .done (List.getElem?_eq_none (by omega))
  | succ steps ih =>
      have hrest : bound.length ≤ index + 1 + steps := by omega
      cases hindex : s.order[index]? with
      | none =>
          simp only [footnoteItems, hindex]
          exact .done hindex
      | some identifier =>
          cases hdefined : ctx.footnote? identifier with
          | none =>
              simp only [footnoteItems, hindex, hdefined]
              exact .skip hindex hdefined (ih (hprogress.skip hindex hdefined) hrest)
          | some parts =>
              rcases hlower : lowerAll ctx 0 parts s with ⟨children, t⟩
              have hnext := (hprogress.item hindex hdefined hlower).2
              simp only [footnoteItems, hindex, hdefined, hlower]
              exact .item hindex hdefined hlower (ih hnext hrest)

/-! ## The footnotes of a tree -/

/-- The references in the body of a markup tree. -/
def bodyReferences (root : Markup) (source : String) : List String :=
  referencesIn (visits source.toList 0 [root])

theorem allOf_singleton (root : Markup) : allOf [root] = root.all := by
  rw [allOf, allOf, List.append_nil]

/-- What is referred to in a part of a tree is among the references of the tree. -/
theorem mem_footnoteReferences {root : Markup} {nodes : List Markup} (h : allOf nodes ⊆ root.all)
    {source : List Char} {width : Nat} {identifier : String}
    (hm : identifier ∈ referencesIn (visits source width nodes)) :
    identifier ∈ footnoteReferences root := by
  obtain ⟨visit, hvisit, hreference⟩ := List.mem_filterMap.1 hm
  match visit with
  | .leaf inner (.footnoteReference other label) span =>
      have hleaf := h (leaf_mem_allOf source nodes (Or.inl hvisit))
      exact List.mem_filterMap.2 ⟨_, hleaf, hreference⟩

/-- The definition of a footnote stands in the tree. -/
theorem exists_definition_of_footnote? {root : Markup} {source : String} {identifier : String}
    {parts : List Markup} (h : (contextOf root source).footnote? identifier = some parts) :
    ∃ label span, .branch (.footnoteDefinition identifier label) span parts ∈ root.all := by
  obtain ⟨⟨other, found⟩, hfind, hfound⟩ := Option.map_eq_some_iff.1 h
  obtain ⟨node, hnode, hdefinition⟩ := List.mem_filterMap.1 (List.mem_of_find?_eq_some hfind)
  have hother : other = identifier := by simpa using List.find?_some hfind
  match node with
  | .branch (.footnoteDefinition name label) span inner =>
      obtain ⟨hname, hinner⟩ := Prod.mk.inj (Option.some.inj hdefinition)
      have hparts : inner = parts := hinner.trans hfound
      rw [hname, hparts, hother] at hnode
      exact ⟨label, span, hnode⟩

/-- With its definition all that a footnote says stands in the tree. -/
theorem allOf_subset_of_footnote? {root : Markup} {source : String} {identifier : String}
    {parts : List Markup} (h : (contextOf root source).footnote? identifier = some parts) :
    allOf parts ⊆ root.all := by
  obtain ⟨label, span, hnode⟩ := exists_definition_of_footnote? h
  rw [← allOf_singleton] at hnode ⊢
  exact allOf_subset [root] hnode

/-- The footnotes that the body of a tree leads to are among the references of the tree. -/
theorem mem_footnoteReferences_of_reached {root : Markup} {source : String} {identifier : String}
    (h : Reached (contextOf root source) (bodyReferences root source) identifier) :
    identifier ∈ footnoteReferences root := by
  induction h with
  | direct hm =>
      refine mem_footnoteReferences ?_ hm
      rw [allOf_singleton]
      exact List.Subset.refl _
  | @through identifier other _ hm _ =>
      rw [Context.referencesOf] at hm
      cases hdefined : (contextOf root source).footnote? identifier with
      | none =>
          rw [hdefined] at hm
          cases hm
      | some parts =>
          rw [hdefined] at hm
          exact mem_footnoteReferences (allOf_subset_of_footnote? hdefined) hm

/-! ## Links between marks and items -/

theorem exists_getElem?_of_forall₂ {α β : Type} {R : α → β → Prop} {l : List α} {m : List β}
    (h : List.Forall₂ R l m) {index : Nat} {a : α} (ha : l[index]? = some a) :
    ∃ b, m[index]? = some b ∧ R a b := by
  obtain ⟨hlt, rfl⟩ := List.getElem?_eq_some_iff.1 ha
  have hlt' : index < m.length := h.length_eq ▸ hlt
  exact ⟨m[index], List.getElem?_eq_getElem hlt', h.get hlt hlt'⟩

section

variable {ctx : Context} {order identifiers : List String} {items : List Node}

/-- If all footnotes of the list have definitions, the number of a footnote is the place of its
item. -/
theorem exists_item_of_number
    (hitems : List.Forall₂ (IsItem ctx order) (order.filter ctx.defines) items)
    (hall : ∀ identifier ∈ order, ctx.defines identifier) {identifier : String}
    (hm : identifier ∈ order) : ∃ index item, numberIn order identifier = index + 1 ∧
      items[index]? = some item ∧ IsItem ctx order identifier item := by
  rw [List.filter_eq_self.2 hall] at hitems
  obtain ⟨item, hitem, his⟩ := exists_getElem?_of_forall₂ hitems (List.getElem?_idxOf hm)
  exact ⟨order.idxOf identifier, item, rfl, hitem, his⟩

/-- An item holds an anchor for each footnote that it refers to. -/
theorem exists_anchor_of_items (hitems : List.Forall₂ (IsItem ctx order) identifiers items)
    {identifier other : String} (hm : identifier ∈ identifiers)
    (hother : other ∈ ctx.referencesOf identifier) :
    ∃ anchor ∈ elements items, anchor.head.tag = "a" ∧
      anchor.head.attribute? "id" = some ("fnref-" ++ other) := by
  induction hitems with
  | nil => cases hm
  | @cons first item _ items hitem _ ih =>
      have hsplit : elements (item :: items) = elements [item] ++ elements items := by
        rw [← elements_append, List.singleton_append]
      rw [hsplit]
      rcases List.mem_cons.1 hm with rfl | hm
      · obtain ⟨head, back, children, rfl, -, -, -, -, hmarked⟩ := hitem
        obtain ⟨anchor, hanchor, hid⟩ := hmarked.exists_anchor hother
        refine ⟨anchor, List.mem_append_left _ ?_, hid⟩
        rw [elements_element, elements_append]
        simp [hanchor]
      · obtain ⟨anchor, hanchor, hid⟩ := ih hm
        exact ⟨anchor, List.mem_append_right _ hanchor, hid⟩

/-- In a body with its section there is an anchor for each footnote of the list: the reference is in
the body, or in what a footnote of the list says. -/
theorem Complete.exists_anchor {references : List String} {body : List Node}
    (h : Complete ctx references order) (hbody : Marked (numberIn order) references body)
    (hitems : List.Forall₂ (IsItem ctx order) (order.filter ctx.defines) items)
    {identifier : String} (hm : identifier ∈ order) :
    ∃ anchor ∈ elements (body ++ [footnoteSection items]), anchor.head.tag = "a" ∧
      anchor.head.attribute? "id" = some ("fnref-" ++ identifier) := by
  rw [elements_append]
  rw [h.order_eq, List.mem_eraseDups, List.mem_append, List.mem_flatMap] at hm
  rcases hm with hm | ⟨other, hother, hm⟩
  · obtain ⟨anchor, hanchor, hid⟩ := hbody.exists_anchor hm
    exact ⟨anchor, List.mem_append_left _ hanchor, hid⟩
  · have hdefined := List.mem_filter.2 ⟨hother, defines_of_mem_referencesOf hm⟩
    obtain ⟨anchor, hanchor, hid⟩ := exists_anchor_of_items hitems hdefined hm
    refine ⟨anchor, List.mem_append_right _ ?_, hid⟩
    simp [footnoteSection, plain, hanchor]

end

/-! ## The whole tree -/

/-- The body of a tree is made of what lowering comes across in it. -/
theorem woven_body (root : Markup) (source : String) :
    let ctx := contextOf root source
    Woven ctx (visits ctx.source 0 [root]) {} (lowerNode ctx 0 root {}).1
      (lowerNode ctx 0 root {}).2 := by
  intro ctx
  have hvisits : visits ctx.source 0 [root] = visitsOf ctx.source 0 root := List.append_nil _
  rw [hvisits]
  exact woven_lowerNode ctx 0 root {}

/-- Lowering puts a section behind the body if there are references, unless a fence was not
closed. -/
theorem lower_eq_elim {root : Markup} {source : String} {items : List Node} {final : State}
    (hrun : footnoteItems (contextOf root source) (footnoteReferences root).length 0
      (lowerNode (contextOf root source) 0 root {}).2 = (items, final))
    (hstart : (lowerNode (contextOf root source) 0 root {}).2.order =
      (bodyReferences root source).eraseDups) :
    lower root source = final.unclosed.elim
      (.ok ((lowerNode (contextOf root source) 0 root {}).1 ++
        if bodyReferences root source = [] then [] else [footnoteSection items])) .error := by
  rcases hbody : lowerNode (contextOf root source) 0 root {} with ⟨body, s⟩
  rw [hbody] at hrun hstart
  have hempty : s.order.isEmpty ↔ bodyReferences root source = [] := by
    rw [hstart, List.isEmpty_iff, eraseDups_eq_nil_iff]
  simp only [lower, hbody, hrun]
  by_cases hnone : bodyReferences root source = []
  · simp only [if_pos (hempty.2 hnone), if_pos hnone, List.append_nil]
    cases final.unclosed <;> rfl
  · simp only [if_neg (hempty.not.2 hnone), if_neg hnone]
    cases final.unclosed <;> rfl

end Lower

open Lower Markdown in
/-- Lowering a markup tree works through the footnotes to an end, whatever refers to what.  No node
that is lowered puts a footnote on the list twice, and in the end the list holds what can be reached
from the body, in the order of first references.  The body is followed by a section exactly if it
refers to a footnote; the section has one item for each footnote of the list that has a definition,
in this order.  Each reference has a mark with the number of its footnote in the list, which is the
place of the item if all footnotes of the list have definitions; and for each footnote of the list
an anchor that its item can link back to is in the tree. -/
theorem footnotes_of_lower (root : Markup) (source : String) :
    let ctx := contextOf root source
    let references := bodyReferences root source
    let body := lowerNode ctx 0 root {}
    (∀ width node s, s.order.Nodup → (lowerNode ctx width node s).2.order.Nodup) ∧
    ∃ items final, Collects ctx 0 body.2 items final ∧
      (∀ steps, (footnoteReferences root).length ≤ steps →
        footnoteItems ctx steps 0 body.2 = (items, final)) ∧
      Complete ctx references final.order ∧
      Marked (numberIn final.order) references body.1 ∧
      List.Forall₂ (IsItem ctx final.order) (final.order.filter ctx.defines) items ∧
      lower root source = final.unclosed.elim
        (.ok (body.1 ++ if references = [] then [] else [footnoteSection items])) .error ∧
      ((∀ identifier, Reached ctx references identifier → ctx.defines identifier) →
        ∀ identifier, Reached ctx references identifier → ∃ index item,
          numberIn final.order identifier = index + 1 ∧ items[index]? = some item ∧
            IsItem ctx final.order identifier item) ∧
      ∀ tree, lower root source = .ok tree → ∀ identifier, Reached ctx references identifier →
        ∃ anchor ∈ elements tree, anchor.head.tag = "a" ∧
          anchor.head.attribute? "id" = some ("fnref-" ++ identifier) := by
  intro ctx references body
  have hwoven : Woven ctx (visits ctx.source 0 [root]) {} body.1 body.2 := woven_body root source
  have hknown : ({} : State).order = ([] : List String).eraseDups := rfl
  have hstart : body.2.order = references.eraseDups := hwoven.order_eq hknown
  have hprogress : Progress ctx references 0 body.2 := .initial hstart
  have hcollects : ∀ steps, (footnoteReferences root).length ≤ steps → Collects ctx 0 body.2
      (footnoteItems ctx steps 0 body.2).1 (footnoteItems ctx steps 0 body.2).2 :=
    fun steps hsteps => collects_footnoteItems (fun _ => mem_footnoteReferences_of_reached)
      hprogress
      (by omega)
  rcases hrun : footnoteItems ctx (footnoteReferences root).length 0 body.2 with ⟨items, final⟩
  have hcollected := hcollects _ (Nat.le_refl _)
  rw [hrun] at hcollected
  obtain ⟨hextends, hcomplete, hitems⟩ := hcollected.complete hprogress
  rw [List.drop_zero] at hitems
  have hmarked : Marked (numberIn final.order) references body.1 := hwoven.marked hknown hextends
  have hlower := lower_eq_elim hrun hstart
  refine ⟨fun width node s => (woven_lowerNode ctx width node s).nodup, items, final, hcollected,
    fun steps hsteps => ?_, hcomplete, hmarked, hitems, hlower, fun hall identifier hreached => ?_,
    fun tree htree identifier hreached => ?_⟩
  · obtain ⟨hsame, hend⟩ := (hcollects steps hsteps).unique hcollected
    exact Prod.ext hsame hend
  · have hdefined : ∀ other ∈ final.order, ctx.defines other := fun other hm =>
      hall other ((hcomplete.mem_iff other).1 hm)
    exact exists_item_of_number hitems hdefined ((hcomplete.mem_iff identifier).2 hreached)
  · rw [hlower, if_neg hreached.references_ne_nil] at htree
    cases hunclosed : final.unclosed with
    | some error =>
        rw [hunclosed] at htree
        cases htree
    | none =>
        rw [hunclosed] at htree
        cases htree
        exact hcomplete.exists_anchor hmarked hitems ((hcomplete.mem_iff identifier).2 hreached)

open Lower Markdown in
/-- A body that refers to the second of two footnotes, which refer to each other and to themselves.
The first one is defined within the second one, and a third one is referred to by nothing. -/
def loopedNotes : Markup :=
  .branch .root none
    [.branch .paragraph none [.leaf (.footnoteReference "b" none) none],
      .branch (.footnoteDefinition "b" none) none
        [.branch .paragraph none
          [.leaf (.footnoteReference "b" none) none, .leaf (.footnoteReference "a" none) none],
          .branch (.footnoteDefinition "a" none) none
            [.branch .paragraph none
              [.leaf (.footnoteReference "a" none) none,
                .leaf (.footnoteReference "b" none) none]]],
      .branch (.footnoteDefinition "c" none) none []]

open Lower Markdown in
theorem footnotes_of_loopedNotes :
    (∀ identifier, Reached (contextOf loopedNotes "") (bodyReferences loopedNotes "") identifier →
      (contextOf loopedNotes "").defines identifier) ∧
    ∃ items final,
      Collects (contextOf loopedNotes "") 0
        (lowerNode (contextOf loopedNotes "") 0 loopedNotes {}).2
        items final ∧
      final.order = ["b", "a"] ∧ items.length = 2 ∧
      ∀ identifier, Reached (contextOf loopedNotes "") (bodyReferences loopedNotes "") identifier →
        ∃ index item, numberIn final.order identifier = index + 1 ∧ items[index]? = some item ∧
          IsItem (contextOf loopedNotes "") final.order identifier item := by
  have hall : ∀ identifier,
      Reached (contextOf loopedNotes "") (bodyReferences loopedNotes "") identifier →
        (contextOf loopedNotes "").defines identifier := by
    have hdefined : ∀ identifier ∈ footnoteReferences loopedNotes,
        (contextOf loopedNotes "").defines identifier := by decide +kernel
    intro identifier hreached
    exact hdefined identifier (mem_footnoteReferences_of_reached hreached)
  obtain ⟨-, items, final, hcollects, hsteps, -, -, -, -, hnumbers, -⟩ :=
    footnotes_of_lower loopedNotes ""
  have hrun : (footnoteItems (contextOf loopedNotes "") 5 0
      (lowerNode (contextOf loopedNotes "") 0 loopedNotes {}).2).2.order = ["b", "a"] ∧
      (footnoteItems (contextOf loopedNotes "") 5 0
        (lowerNode (contextOf loopedNotes "") 0 loopedNotes {}).2).1.length = 2 := by
    decide +kernel
  rw [hsteps 5 (by decide +kernel)] at hrun
  exact ⟨hall, items, final, hcollects, hrun.1, hrun.2, hnumbers hall⟩

end Folio
