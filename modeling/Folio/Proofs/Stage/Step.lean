import Folio.Pipeline
import Folio.Proofs.Outcome
import Folio.Proofs.Tree.Revision

/-!
# What each stage changes

Each built-in stage that succeeds gives a revision of its tree, and what it does to the head of an
element is said by the relation of that revision.
-/

namespace Folio

/-! ## Heads that keep most attributes -/

/-- The new head of an element keeps its data, and its attributes except those of some names. -/
def Keeps (names : List String) (e : Element) (head : ElementHead) : Prop :=
  head.data = e.head.data ∧ ∀ name, name ∉ names → head.attribute? name = e.head.attribute? name

namespace Keeps

variable {names : List String} {e : Element} {head : ElementHead}

theorem same (names : List String) (e : Element) : Keeps names e e.head :=
  ⟨rfl, fun _ _ => rfl⟩

theorem setAttribute (h : Keeps names e head) {name : String} (hn : name ∈ names)
    (value : String) : Keeps names e (head.setAttribute name value) := by
  refine ⟨h.1, fun other ho => ?_⟩
  have hne : name ≠ other := fun he => ho (he ▸ hn)
  rw [ElementHead.attribute?_setAttribute, if_neg hne]
  exact h.2 other ho

theorem eraseAttribute (h : Keeps names e head) {name : String} (hn : name ∈ names) :
    Keeps names e (head.eraseAttribute name) := by
  refine ⟨h.1, fun other ho => ?_⟩
  have hne : name ≠ other := fun he => ho (he ▸ hn)
  rw [ElementHead.attribute?_eraseAttribute, if_neg hne]
  exact h.2 other ho

end Keeps

/-! ## Stages that change heads alone -/

/-- Changing heads only revises the tree. -/
theorem revises_mapHeads (f : ElementHead → List Node → ElementHead)
    (htag : ∀ head children, (f head children).tag = head.tag) (t : Tree) :
    Revises (fun e head => head = f e.head e.children) t (mapHeads f t) := by
  induction t using tree_induction with
  | nil => exact .nil
  | element head children rest ihc ihr => exact .element (htag head children) rfl ihc ihr
  | component tag children rest ihc ihr => exact .component tag ihc ihr
  | text value rest ih => exact .text value ih

theorem tag_keepRaw (head : ElementHead) (children : List Node) :
    (keepRaw head children).tag = head.tag := by
  unfold keepRaw
  split <;> rfl

theorem revises_preserveRaw (t : Tree) :
    Revises (fun e head => head = keepRaw e.head e.children) t (preserveRaw t) :=
  revises_mapHeads keepRaw tag_keepRaw t

theorem tag_giveId (head : ElementHead) (children : List Node) :
    (giveId head children).tag = head.tag := by
  unfold giveId
  split <;> rfl

/-- Giving headings an id touches no other attribute. -/
theorem revises_headingIds (t : Tree) : Revises (Keeps ["id"]) t (headingIds t) := by
  refine (revises_mapHeads giveId tag_giveId t).mono fun e head h => ?_
  rw [h, giveId]
  split
  · exact (Keeps.same ["id"] e).setAttribute (by decide) _
  · exact Keeps.same ["id"] e

section

variable {ε : Type} {f : ElementHead → List Node → Except ε ElementHead} {u : Tree}

theorem tryMapHeads_cons_eq_ok_iff {node : Node} {rest : List Node} :
    tryMapHeads f (node :: rest) = .ok u ↔
      ∃ node' rest', node.tryMapHeads f = .ok node' ∧ tryMapHeads f rest = .ok rest' ∧
        u = node' :: rest' :=
  bind_bind_pure_eq_ok_iff

theorem tryMapHeads_element_eq_ok_iff {head : ElementHead} {children : List Node} {node : Node} :
    (Node.element head children).tryMapHeads f = .ok node ↔
      ∃ head' children', f head children = .ok head' ∧ tryMapHeads f children = .ok children' ∧
        node = .element head' children' :=
  bind_bind_pure_eq_ok_iff

theorem tryMapHeads_component_eq_ok_iff {tag : ComponentHead} {children : List Node} {node : Node} :
    (Node.component tag children).tryMapHeads f = .ok node ↔
      ∃ children', tryMapHeads f children = .ok children' ∧ node = .component tag children' :=
  bind_pure_eq_ok_iff

/-- Changing heads, if that succeeds, revises the tree. -/
theorem revises_tryMapHeads {t : Tree}
    (htag : ∀ head children head', f head children = .ok head' → head'.tag = head.tag)
    (h : tryMapHeads f t = .ok u) :
    Revises (fun e head => f e.head e.children = .ok head) t u := by
  induction t using tree_induction generalizing u with
  | nil =>
      cases h
      exact .nil
  | element head children rest ihc ihr =>
      obtain ⟨node, rest', hnode, hrest, rfl⟩ := tryMapHeads_cons_eq_ok_iff.1 h
      obtain ⟨head', children', hhead, hchildren, rfl⟩ := tryMapHeads_element_eq_ok_iff.1 hnode
      exact .element (htag head children head' hhead) hhead (ihc hchildren) (ihr hrest)
  | component tag children rest ihc ihr =>
      obtain ⟨node, rest', hnode, hrest, rfl⟩ := tryMapHeads_cons_eq_ok_iff.1 h
      obtain ⟨children', hchildren, rfl⟩ := tryMapHeads_component_eq_ok_iff.1 hnode
      exact .component tag (ihc hchildren) (ihr hrest)
  | text value rest ih =>
      obtain ⟨node, rest', hnode, hrest, rfl⟩ := tryMapHeads_cons_eq_ok_iff.1 h
      cases hnode
      exact .text value (ih hrest)

/-- Heads can all be changed if each of them can. -/
theorem exists_tryMapHeads {t : Tree}
    (h : ∀ e ∈ elements t, ∃ head, f e.head e.children = .ok head) :
    ∃ u, tryMapHeads f t = .ok u := by
  induction t using tree_induction with
  | nil => exact ⟨[], rfl⟩
  | element head children rest ihc ihr =>
      rw [elements_element, List.forall_mem_cons, List.forall_mem_append] at h
      obtain ⟨⟨head', hhead⟩, hc, hr⟩ := h
      obtain ⟨children', hchildren⟩ := ihc hc
      obtain ⟨rest', hrest⟩ := ihr hr
      have hnode := tryMapHeads_element_eq_ok_iff.2 ⟨head', children', hhead, hchildren, rfl⟩
      exact ⟨_, tryMapHeads_cons_eq_ok_iff.2 ⟨_, rest', hnode, hrest, rfl⟩⟩
  | component tag children rest ihc ihr =>
      rw [elements_component, List.forall_mem_append] at h
      obtain ⟨children', hchildren⟩ := ihc h.1
      obtain ⟨rest', hrest⟩ := ihr h.2
      have hnode : (Node.component tag children).tryMapHeads f = .ok (.component tag children') :=
        tryMapHeads_component_eq_ok_iff.2 ⟨children', hchildren, rfl⟩
      exact ⟨_, tryMapHeads_cons_eq_ok_iff.2 ⟨_, rest', hnode, hrest, rfl⟩⟩
  | text value rest ih =>
      obtain ⟨rest', hrest⟩ := ih h
      exact ⟨_, tryMapHeads_cons_eq_ok_iff.2 ⟨.text value, rest', rfl, hrest, rfl⟩⟩

end

/-- A block with a kept text has it published, and nothing else of its head changes. -/
theorem publishRaw_eq_ok {e : Element} {head : ElementHead} (hblock : isCodeBlock e.head e.children)
    (h : publishRaw e.head e.children = .ok head) :
    ∃ raw, e.head.data.rawText = some raw ∧ head = e.head.setAttribute "raw" raw := by
  rw [publishRaw, if_pos hblock] at h
  cases hraw : e.head.data.rawText with
  | none =>
      rw [hraw] at h
      cases h
  | some raw =>
      rw [hraw] at h
      cases h
      exact ⟨raw, rfl, rfl⟩

theorem tag_publishRaw {head head' : ElementHead} {children : List Node}
    (h : publishRaw head children = .ok head') : head'.tag = head.tag := by
  by_cases hblock : isCodeBlock head children
  · obtain ⟨raw, -, rfl⟩ := publishRaw_eq_ok (e := ⟨head, children⟩) hblock h
    rfl
  · rw [publishRaw, if_neg hblock] at h
    cases h
    rfl

theorem revises_attachRaw {t u : Tree} (h : attachRaw t = .ok u) :
    Revises (fun e head => publishRaw e.head e.children = .ok head) t u :=
  revises_tryMapHeads (fun _ _ _ => tag_publishRaw) h

/-- Texts can be published if every block has one. -/
theorem exists_attachRaw {t : Tree} (h : ∀ block ∈ blocks t, block.head.data.rawText.isSome) :
    ∃ u, attachRaw t = .ok u := by
  refine exists_tryMapHeads fun e he => ?_
  unfold publishRaw
  by_cases hblock : isCodeBlock e.head e.children
  · obtain ⟨raw, hraw⟩ := Option.isSome_iff_exists.1 (h e (List.mem_filter.2 ⟨he, hblock⟩))
    rw [if_pos hblock, hraw]
    exact ⟨_, rfl⟩
  · rw [if_neg hblock]
    exact ⟨_, rfl⟩

/-! ## Titles -/

/-- The head of a revision's first `code` may change once more. -/
theorem Revises.mapCodeHead {R : Element → ElementHead → Prop} {f : ElementHead → ElementHead}
    (htag : ∀ head, (f head).tag = head.tag) (hR : ∀ e head, R e head → R e (f head))
    {t u : List Node} (h : Revises R t u) : Revises R t (mapCodeHead f u) := by
  induction h with
  | nil => exact .nil
  | text value _ ih => exact .text value ih
  | component tag hc _ _ ih => exact .component tag hc ih
  | @element head head' children children' rest rest' ht hr hc hrest _ ih =>
      rw [Folio.mapCodeHead]
      split
      · exact .element ((htag head').trans ht) (hR _ _ hr) hc hrest
      · exact .element ht hr hc ih
  | link l href hh ht hr hc _ _ ih =>
      rw [Folio.mapCodeHead, if_neg (ht ▸ tag_ne_code_of_isHeading hh)]
      exact .link l href hh ht hr hc ih
  | recode hp ht hr hb hcode hs hbefore hafter _ _ _ ih =>
      rw [Folio.mapCodeHead, if_neg (by rw [ht, hp]; decide)]
      exact .recode hp ht hr hb hcode hs hbefore hafter ih

/-- The attributes that lifting titles may touch. -/
def titleNames : List String := ["data-title", "data-meta", "class"]

/-- Lifting a title out of a note keeps the tag. -/
theorem liftNoteTitle?_eq_some {e : Element} {head : ElementHead}
    (h : liftNoteTitle? e.head = some head) : head.tag = e.head.tag ∧ Keeps titleNames e head := by
  simp only [liftNoteTitle?, Option.bind_eq_bind, Option.bind_eq_some_iff] at h
  obtain ⟨note, -, found, -, h⟩ := h
  cases h
  have hsame := Keeps.same titleNames e
  split
  · exact ⟨rfl, (hsame.eraseAttribute (by decide)).setAttribute (by decide) _⟩
  · exact ⟨rfl, (hsame.setAttribute (by decide) _).setAttribute (by decide) _⟩

/-- Lifting titles touches the title, the note and the class. -/
theorem revises_liftTitles (t : Tree) : Revises (Keeps titleNames) t (liftTitles t) := by
  induction t using tree_induction with
  | nil => exact .nil
  | text value rest ih => exact .text value ih
  | component tag children rest ihc ihr => exact .component tag ihc ihr
  | element head children rest ihc ihr =>
      show Revises _ _ ((Node.element head children).liftTitles :: liftTitles rest)
      have hsame := Keeps.same titleNames ⟨head, children⟩
      rw [Node.liftTitles]
      by_cases hblock : isCodeBlock head children
      · rw [if_pos hblock]
        cases hnote : liftNoteTitle? head with
        | some head' =>
            obtain ⟨htag, hkeeps⟩ := liftNoteTitle?_eq_some (e := ⟨head, children⟩) hnote
            exact .element htag hkeeps ihc ihr
        | none =>
            cases hcode : codeTitle? children with
            | none => exact .element rfl hsame ihc ihr
            | some found =>
                obtain ⟨language, title⟩ := found
                refine .element rfl (hsame.setAttribute (by decide) _) (ihc.mapCodeHead ?_ ?_) ihr
                · exact fun _ => rfl
                · exact fun e head h => h.setAttribute (by decide) _
      · rw [if_neg hblock]
        exact .element rfl hsame ihc ihr

/-! ## Links of headings -/

/-- Linking headings changes no head. -/
theorem revises_linkHeadings (link : SelfLink) (t : Tree) :
    Revises (fun e head => head = e.head) t (linkHeadings link t) := by
  induction t using tree_induction with
  | nil => exact .nil
  | text value rest ih => exact .text value ih
  | component tag children rest ihc ihr => exact .component tag ihc ihr
  | element head children rest ihc ihr =>
      show Revises _ _ ((Node.element head children).linkHeadings link :: linkHeadings link rest)
      rw [Node.linkHeadings]
      by_cases hh : head.isHeading
      · cases hid : head.attribute? "id" with
        | none =>
            simp only [selfHref?, hh, hid, if_true, Option.map_none]
            exact .element rfl rfl ihc ihr
        | some id =>
            simp only [selfHref?, hh, hid, if_true, Option.map_some]
            exact .link link _ hh rfl rfl ihc ihr
      · simp only [selfHref?, hh]
        exact .element rfl rfl ihc ihr

end Folio
