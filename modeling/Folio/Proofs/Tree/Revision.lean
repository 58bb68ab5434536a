import Folio.Proofs.Tree.Block
import Mathlib.Data.List.Forall2

/-!
# Revisions of a tree

What the stages of a pipeline may do to a tree, as one relation.  A revision keeps texts, components
and the tags of elements; it may change the rest of an element's head, place the link of a heading
to itself, and show the code of a block in rows.  What follows for code blocks and for components
is derived once, from the relation.
-/

namespace Folio

/-- Nodes that are texts and spans, at any depth: what rows of code are made of. -/
inductive Spans : List Node → Prop
  | nil : Spans []
  | text (value : String) {rest : List Node} : Spans rest → Spans (.text value :: rest)
  | span {head : ElementHead} {children rest : List Node} :
      head.tag = "span" → Spans children → Spans rest → Spans (.element head children :: rest)

/-- The second tree is a revision of the first.  `R` relates each element to its new head, except
that what was below replaced code is left out. -/
inductive Revises (R : Element → ElementHead → Prop) : List Node → List Node → Prop
  | nil : Revises R [] []
  | text (value : String) {rest rest' : List Node} :
      Revises R rest rest' → Revises R (.text value :: rest) (.text value :: rest')
  | component (tag : ComponentHead) {children children' rest rest' : List Node} :
      Revises R children children' → Revises R rest rest' →
      Revises R (.component tag children :: rest) (.component tag children' :: rest')
  | element {head head' : ElementHead} {children children' rest rest' : List Node} :
      head'.tag = head.tag → R ⟨head, children⟩ head' →
      Revises R children children' → Revises R rest rest' →
      Revises R (.element head children :: rest) (.element head' children' :: rest')
  | link {head head' : ElementHead} {children children' rest rest' : List Node}
      (link : SelfLink) (href : String) :
      head.isHeading → head'.tag = head.tag → R ⟨head, children⟩ head' →
      Revises R children children' → Revises R rest rest' →
      Revises R (.element head children :: rest)
        (.element head' (placeLink link href children children') :: rest')
  | recode {head head' code : ElementHead}
      {before before' body rows after after' rest rest' : List Node} :
      head.tag = "pre" → head'.tag = head.tag →
      R ⟨head, before ++ .element code body :: after⟩ head' →
      codeChild? before = none → code.tag = "code" → Spans rows →
      Revises R before before' → Revises R after after' → Revises R rest rest' →
      Revises R (.element head (before ++ .element code body :: after) :: rest)
        (.element head' (before' ++ .element code rows :: after') :: rest')

/-! ## Spans and links -/

namespace Spans

theorem append {t u : List Node} (ht : Spans t) (hu : Spans u) : Spans (t ++ u) := by
  induction ht with
  | nil => exact hu
  | text value _ ih => exact .text value ih
  | span htag hc _ _ ih => exact .span htag hc ih

/-- Spans hold no code block. -/
theorem blocks_eq_nil {t : List Node} (h : Spans t) : blocks t = [] := by
  induction h with
  | nil => rfl
  | text value _ ih => simpa using ih
  | @span head children rest htag _ _ ihc ihr =>
      have hne : head.tag ≠ "pre" := by
        rw [htag]
        decide
      simp [isCodeBlock_eq_false hne, ihc, ihr]

/-- Spans hold no component, so all of theirs are known. -/
theorem unresolvedIn?_eq_none {t : List Node} (h : Spans t) (registry : Registry) :
    unresolvedIn? registry t = none := by
  induction h with
  | nil => rfl
  | text value _ ih => simpa using ih
  | span _ _ _ ihc ihr => simp [ihc, ihr]

theorem flatBlocks {t : List Node} (h : Spans t) : FlatBlocks t := by
  intro block hb
  rw [h.blocks_eq_nil] at hb
  cases hb

end Spans

section

variable (link : SelfLink) (href : String) (children linked : List Node)

/-- A heading's link is around its children, or an empty anchor at one end of them, or nowhere. -/
theorem placeLink_cases :
    placeLink link href children linked = linked ∨
      placeLink link href children linked = [wrapAnchor href linked] ∨
      placeLink link href children linked = [iconAnchor href] ++ linked ∨
      placeLink link href children linked = linked ++ [iconAnchor href] := by
  cases link with
  | wrap =>
      by_cases h : hasAnchor children
      · exact Or.inl (if_pos h)
      · exact Or.inr (Or.inl (if_neg h))
  | prepend => exact Or.inr (Or.inr (Or.inl rfl))
  | append => exact Or.inr (Or.inr (Or.inr rfl))
  | off => exact Or.inl rfl

/-- A property that anchors and appended lists get from their parts passes from the children of a
heading to those it has with its link. -/
theorem of_placeLink {P : List Node → Prop} {linked : List Node} (hnil : P [])
    (hanchor : ∀ (head : ElementHead) (nodes : List Node), head.tag = "a" → P nodes →
      P [.element head nodes])
    (happend : ∀ {t u : List Node}, P t → P u → P (t ++ u)) (h : P linked) :
    P (placeLink link href children linked) := by
  have hicon : P [iconAnchor href] := hanchor _ [] rfl hnil
  rcases placeLink_cases link href children linked with heq | heq | heq | heq
  · rw [heq]
    exact h
  · rw [heq]
    exact hanchor _ linked rfl h
  · rw [heq]
    exact happend hicon h
  · rw [heq]
    exact happend h hicon

/-- A heading's link is no code block. -/
theorem blocks_placeLink : blocks (placeLink link href children linked) = blocks linked := by
  have hicon : blocks [iconAnchor href] = [] := rfl
  have hwrap : blocks [wrapAnchor href linked] = blocks linked := by
    have hne : ((ElementHead.ofTag "a").setAttribute "href" href).tag ≠ "pre" := by
      show "a" ≠ "pre"
      decide
    rw [wrapAnchor, blocks_element, isCodeBlock_eq_false hne]
    simp
  rcases placeLink_cases link href children linked with h | h | h | h
  · rw [h]
  · rw [h, hwrap]
  · rw [h, blocks_append, hicon, List.nil_append]
  · rw [h, blocks_append, hicon, List.append_nil]

theorem flatBlocks_placeLink :
    FlatBlocks (placeLink link href children linked) ↔ FlatBlocks linked := by
  unfold FlatBlocks
  rw [blocks_placeLink]

end

theorem unresolvedIn?_append (registry : Registry) (t u : Tree) :
    unresolvedIn? registry (t ++ u) =
      (unresolvedIn? registry t).or (unresolvedIn? registry u) := by
  induction t with
  | nil => rfl
  | cons node t ih =>
      cases node with
      | element head children => simp [ih, Option.or_assoc]
      | component tag children =>
          by_cases h : (registry.resolve? tag.name).isNone
          · simp [h]
          · simp [h, ih, Option.or_assoc]
      | text value => simpa using ih

/-- A heading's link is no component. -/
theorem unresolvedIn?_placeLink (registry : Registry) (link : SelfLink) (href : String)
    (children linked : List Node) :
    unresolvedIn? registry (placeLink link href children linked) =
      unresolvedIn? registry linked := by
  have hicon : unresolvedIn? registry [iconAnchor href] = none := rfl
  have hwrap : unresolvedIn? registry [wrapAnchor href linked] =
      unresolvedIn? registry linked := by
    rw [wrapAnchor, unresolvedIn?_element, unresolvedIn?_nil, Option.or_none]
  rcases placeLink_cases link href children linked with h | h | h | h
  · rw [h]
  · rw [h, hwrap]
  · rw [h, unresolvedIn?_append, hicon, Option.none_or]
  · rw [h, unresolvedIn?_append, hicon, Option.or_none]

theorem codeChild?_append (t u : List Node) :
    codeChild? (t ++ u) = (codeChild? t).or (codeChild? u) := by
  induction t with
  | nil => rfl
  | cons node t ih =>
      cases node with
      | element head children =>
          by_cases h : head.tag = "code"
          · simp [codeChild?_element, h]
          · simp [codeChild?_element, h, ih]
      | component tag children => simpa using ih
      | text value => simpa using ih

/-! ## Lists of children with a `code` -/

section

variable {code : ElementHead} {before body after : List Node}

/-- The first `code` of a list that is cut there. -/
theorem codeChild?_cut (hb : codeChild? before = none) (hc : code.tag = "code") :
    codeChild? (before ++ .element code body :: after) = some ⟨code, body⟩ := by
  rw [codeChild?_append, hb, codeChild?_element, if_pos hc]
  rfl

/-- A `pre` with a `code` among its children is a code block. -/
theorem isCodeBlock_cut {head : ElementHead} (hp : head.tag = "pre")
    (hb : codeChild? before = none) (hc : code.tag = "code") (body after : List Node) :
    isCodeBlock head (before ++ .element code body :: after) = true := by
  simp [isCodeBlock, hp, codeChild?_cut hb hc]

theorem blocks_cut (hc : code.tag = "code") :
    blocks (before ++ .element code body :: after) =
      blocks before ++ (blocks body ++ blocks after) := by
  rw [blocks_append, blocks_code hc]

theorem flatBlocks_cut (hc : code.tag = "code") :
    FlatBlocks (before ++ .element code body :: after) ↔
      FlatBlocks before ∧ FlatBlocks body ∧ FlatBlocks after := by
  have hne : code.tag ≠ "pre" := by
    rw [hc]
    decide
  rw [flatBlocks_append, flatBlocks_element, isCodeBlock_eq_false hne]
  simp

end

/-! ## Traces of blocks -/

/-- The new blocks come, in order, from some of the old ones, and from all of them if `all` holds;
`R` relates an old block to what it has become. -/
def Traces (R : Element → Element → Prop) (all : Prop) (old new : List Element) : Prop :=
  ∃ kept, List.Sublist kept old ∧ List.Forall₂ R kept new ∧ (all → kept = old)

namespace Traces

variable {R : Element → Element → Prop} {all all' : Prop} {old old' new new' : List Element}

theorem nil : Traces R True [] [] :=
  ⟨[], .slnil, .nil, fun _ => rfl⟩

theorem single {block block' : Element} (hr : R block block') : Traces R True [block] [block'] :=
  ⟨[block], .refl _, .cons hr .nil, fun _ => rfl⟩

/-- Blocks that are left out; nothing is left out if there are none. -/
theorem dropped (old : List Element) : Traces R (old = []) old [] :=
  ⟨[], List.nil_sublist _, .nil, fun h => h.symm⟩

theorem append (h : Traces R all old new) (h' : Traces R all' old' new') :
    Traces R (all ∧ all') (old ++ old') (new ++ new') := by
  obtain ⟨kept, hsub, hrel, hall⟩ := h
  obtain ⟨kept', hsub', hrel', hall'⟩ := h'
  refine ⟨kept ++ kept', hsub.append hsub', List.rel_append hrel hrel', fun h => ?_⟩
  rw [hall h.1, hall' h.2]

theorem imp (h : Traces R all old new) (hall : all' → all) : Traces R all' old new := by
  obtain ⟨kept, hsub, hrel, hkept⟩ := h
  exact ⟨kept, hsub, hrel, fun h => hkept (hall h)⟩

/-- The blocks of a list come from those of its first node and those of the others. -/
theorem cons {node node' : Node} {rest rest' : List Node}
    (hnode : Traces R (FlatBlocks [node]) (blocks [node]) (blocks [node']))
    (hrest : Traces R (FlatBlocks rest ∧ all) (blocks rest) (blocks rest')) :
    Traces R (FlatBlocks (node :: rest) ∧ all) (blocks (node :: rest))
      (blocks (node' :: rest')) := by
  have hold : blocks (node :: rest) = blocks [node] ++ blocks rest := blocks_append [node] rest
  have hnew : blocks (node' :: rest') = blocks [node'] ++ blocks rest' :=
    blocks_append [node'] rest'
  rw [hold, hnew]
  refine (hnode.append hrest).imp fun hflat => ?_
  obtain ⟨hfirst, hback⟩ := (flatBlocks_append (t := [node])).1 hflat.1
  exact ⟨hfirst, hback, hflat.2⟩

/-- A weaker relation on blocks. -/
theorem mono {R' : Element → Element → Prop} (h : Traces R all old new)
    (hR : ∀ block block', R block block' → R' block block') : Traces R' all old new := by
  obtain ⟨kept, hsub, hrel, hall⟩ := h
  exact ⟨kept, hsub, hrel.imp hR, hall⟩

theorem exists_of_mem (h : Traces R all old new) {block' : Element} (hb : block' ∈ new) :
    ∃ block ∈ old, R block block' := by
  obtain ⟨kept, hsub, hrel, -⟩ := h
  obtain ⟨i, hi, rfl⟩ := List.mem_iff_getElem.1 hb
  have hlen := hrel.length_eq
  refine ⟨kept[i], hsub.subset (List.getElem_mem _), ?_⟩
  exact hrel.get (by omega) hi

end Traces

/-! ## What a revision keeps -/

namespace Revises

variable {R : Element → ElementHead → Prop} {t u : List Node}

/-- A tree is a revision of itself. -/
theorem same (hR : ∀ e, R e e.head) (t : Tree) : Revises R t t := by
  induction t using tree_induction with
  | nil => exact .nil
  | element head children rest ihc ihr => exact .element rfl (hR _) ihc ihr
  | component tag children rest ihc ihr => exact .component tag ihc ihr
  | text value rest ih => exact .text value ih

/-- A weaker relation on heads. -/
theorem mono {R' : Element → ElementHead → Prop} (hR : ∀ e head, R e head → R' e head)
    (h : Revises R t u) : Revises R' t u := by
  induction h with
  | nil => exact .nil
  | text value _ ih => exact .text value ih
  | component tag _ _ ihc ihr => exact .component tag ihc ihr
  | element htag hr _ _ ihc ihr => exact .element htag (hR _ _ hr) ihc ihr
  | link l href hh htag hr _ _ ihc ihr => exact .link l href hh htag (hR _ _ hr) ihc ihr
  | recode hp htag hr hb hc hs _ _ _ ihb iha ihr =>
      exact .recode hp htag (hR _ _ hr) hb hc hs ihb iha ihr

/-- The first `code` of a revision is a revision of the first `code`. -/
theorem codeChild?_cases (h : Revises R t u) :
    (codeChild? t = none ∧ codeChild? u = none) ∨
      ∃ code code', codeChild? t = some code ∧ codeChild? u = some code' ∧
        Revises R code.children code'.children := by
  induction h with
  | nil => exact Or.inl ⟨rfl, rfl⟩
  | text value _ ih => simpa using ih
  | component tag _ _ _ ih => simpa using ih
  | @element head head' children children' rest rest' htag hr hc _ _ ih =>
      rw [codeChild?_element, codeChild?_element, htag]
      by_cases hcode : head.tag = "code"
      · rw [if_pos hcode, if_pos hcode]
        exact Or.inr ⟨_, _, rfl, rfl, hc⟩
      · rw [if_neg hcode, if_neg hcode]
        exact ih
  | link l href hh htag _ _ _ _ ih =>
      have hcode := tag_ne_code_of_isHeading hh
      rw [codeChild?_element, codeChild?_element, htag, if_neg hcode, if_neg hcode]
      exact ih
  | @recode head head' _ _ _ _ _ _ _ _ _ hp htag _ _ _ _ _ _ _ _ _ ih =>
      have hcode : head.tag ≠ "code" := by
        rw [hp]
        decide
      rw [codeChild?_element, codeChild?_element, htag, if_neg hcode, if_neg hcode]
      exact ih

theorem codeChild?_eq_none (h : Revises R t u) (ht : codeChild? t = none) :
    codeChild? u = none := by
  rcases h.codeChild?_cases with ⟨-, hu⟩ | ⟨code, _, hsome, -⟩
  · exact hu
  · rw [ht] at hsome
    cases hsome

/-- A revision keeps which elements are code blocks. -/
theorem isCodeBlock_eq (h : Revises R t u) {head head' : ElementHead}
    (htag : head'.tag = head.tag) : isCodeBlock head' u = isCodeBlock head t := by
  unfold isCodeBlock
  rw [htag]
  rcases h.codeChild?_cases with ⟨ht, hu⟩ | ⟨code, code', ht, hu, -⟩
  · rw [ht, hu]
  · rw [ht, hu]
    rfl

/-- The blocks of a revision come from the blocks of the tree, in order, and from all of them if the
tree is flat: only blocks inside replaced code are left out. -/
theorem traces (h : Revises R t u) :
    Traces (fun block block' => R block block'.head) (FlatBlocks t) (blocks t) (blocks u) := by
  induction h with
  | nil => exact Traces.nil.imp fun _ => trivial
  | text value _ ih => exact ih
  | component tag _ _ ihc ihr =>
      rw [blocks_component, blocks_component]
      exact (ihc.append ihr).imp flatBlocks_component.1
  | @element head head' children children' rest rest' htag hr hc _ ihc ihr =>
      have hhead : Traces (fun block block' => R block block'.head) True
          (if isCodeBlock head children then [⟨head, children⟩] else [])
          (if isCodeBlock head children then [⟨head', children'⟩] else []) := by
        by_cases hcode : isCodeBlock head children
        · rw [if_pos hcode, if_pos hcode]
          exact .single hr
        · rw [if_neg hcode, if_neg hcode]
          exact .nil
      rw [blocks_element, blocks_element, hc.isCodeBlock_eq htag]
      refine (hhead.append (ihc.append ihr)).imp fun hflat => ?_
      exact ⟨trivial, (flatBlocks_element.1 hflat).2⟩
  | @link head head' children children' rest rest' l href hh htag _ _ _ ihc ihr =>
      have hne := tag_ne_pre_of_isHeading hh
      have hne' : head'.tag ≠ "pre" := htag ▸ hne
      rw [blocks_element, blocks_element, isCodeBlock_eq_false hne, isCodeBlock_eq_false hne',
        blocks_placeLink]
      exact (ihc.append ihr).imp fun hflat => (flatBlocks_element.1 hflat).2
  | @recode head head' code before before' body rows after after' rest rest' hp htag hr hb hcode hs
      hbefore hafter _ ihb iha ihr =>
      have hblock := isCodeBlock_cut hp hb hcode body after
      have hblock' := isCodeBlock_cut (htag.trans hp) (hbefore.codeChild?_eq_none hb) hcode rows
        after'
      rw [blocks_element, blocks_element, hblock, hblock', blocks_cut hcode, blocks_cut hcode,
        hs.blocks_eq_nil]
      -- The blocks of the old code are dropped; the code of a flat tree has none.
      refine ((Traces.single hr).append
        ((ihb.append ((Traces.dropped _).append iha)).append ihr)).imp fun hflat => ?_
      obtain ⟨hbody, hchildren, hrest⟩ := flatBlocks_element.1 hflat
      obtain ⟨hbf, -, haf⟩ := (flatBlocks_cut hcode).1 hchildren
      exact ⟨trivial, ⟨hbf, hbody hblock _ (codeChild?_cut hb hcode), haf⟩, hrest⟩

/-- Each block of a revision comes from a block. -/
theorem exists_of_mem_blocks (h : Revises R t u) {block' : Element} (hb : block' ∈ blocks u) :
    ∃ block ∈ blocks t, R block block'.head :=
  h.traces.exists_of_mem hb

/-- The blocks of a revision of a flat tree are the tree's blocks with their heads changed. -/
theorem forall₂_blocks (h : Revises R t u) (hflat : FlatBlocks t) :
    List.Forall₂ (fun block block' => R block block'.head) (blocks t) (blocks u) := by
  obtain ⟨kept, -, hrel, hall⟩ := h.traces
  rwa [hall hflat] at hrel

/-- What is read off the heads of the blocks of a revision can be read off some blocks of the tree,
in order. -/
theorem map_blocks_sublist {α : Type} {f : Element → α} {g : ElementHead → α} (h : Revises R t u)
    (hR : ∀ block head, isCodeBlock block.head block.children → R block head → g head = f block) :
    ((blocks u).map fun block => g block.head).Sublist ((blocks t).map f) := by
  obtain ⟨kept, hsub, hrel, -⟩ := h.traces
  have hmem : ∀ block ∈ kept, isCodeBlock block.head block.children :=
    fun block hm => (List.mem_filter.1 (hsub.subset hm)).2
  have heq : ((blocks u).map fun block => g block.head) = kept.map f := by
    clear hsub
    generalize blocks u = new at hrel
    induction hrel with
    | nil => rfl
    | cons hr _ ih =>
        rw [List.forall_mem_cons] at hmem
        rw [List.map_cons, List.map_cons, hR _ _ hmem.1 hr, ih hmem.2]
  rw [heq]
  exact hsub.map f

/-- What is read off the blocks of a flat tree can be read off those of a revision, if it can be
read off the head of each of them. -/
theorem map_blocks_eq {α : Type} {f : Element → α} {g : ElementHead → α} (h : Revises R t u)
    (hflat : FlatBlocks t)
    (hR : ∀ block head, isCodeBlock block.head block.children → R block head → g head = f block) :
    (blocks u).map (fun block => g block.head) = (blocks t).map f := by
  refine (h.map_blocks_sublist hR).eq_of_length ?_
  rw [List.length_map, List.length_map, (h.forall₂_blocks hflat).length_eq]

theorem blocks_eq_nil (h : Revises R t u) (ht : blocks t = []) : blocks u = [] := by
  rw [List.eq_nil_iff_forall_not_mem]
  intro block' hb
  obtain ⟨block, hm, -⟩ := h.exists_of_mem_blocks hb
  rw [ht] at hm
  cases hm

/-- A revision of a flat tree is flat: no block moves into the code of another one. -/
theorem flatBlocks (h : Revises R t u) (hflat : FlatBlocks t) : FlatBlocks u := by
  induction h with
  | nil => exact flatBlocks_nil
  | text value _ ih => exact ih hflat
  | component tag _ _ ihc ihr =>
      obtain ⟨hc, hr⟩ := flatBlocks_component.1 hflat
      exact flatBlocks_component.2 ⟨ihc hc, ihr hr⟩
  | @element head head' children children' rest rest' htag _ hrev _ ihc ihr =>
      obtain ⟨hbody, hc, hr⟩ := flatBlocks_element.1 hflat
      refine flatBlocks_element.2 ⟨fun hblock code' hcode' => ?_, ihc hc, ihr hr⟩
      rw [hrev.isCodeBlock_eq htag] at hblock
      rcases hrev.codeChild?_cases with ⟨-, hnone⟩ | ⟨code, _, hcode, hsome, hinner⟩
      · rw [hnone] at hcode'
        cases hcode'
      · -- The code of the block was revised with it, and revising adds no block.
        rw [hsome] at hcode'
        cases hcode'
        exact hinner.blocks_eq_nil (hbody hblock code hcode)
  | @link head head' children children' rest rest' l href hh htag _ _ _ ihc ihr =>
      obtain ⟨-, hc, hr⟩ := flatBlocks_element.1 hflat
      have hne : head'.tag ≠ "pre" := htag ▸ tag_ne_pre_of_isHeading hh
      refine flatBlocks_element.2 ⟨fun hblock => ?_, ?_, ihr hr⟩
      · rw [isCodeBlock_eq_false hne] at hblock
        cases hblock
      · exact (flatBlocks_placeLink l href children children').2 (ihc hc)
  | recode hp htag _ hb hcode hs hbefore _ _ ihb iha ihr =>
      obtain ⟨-, hc, hr⟩ := flatBlocks_element.1 hflat
      obtain ⟨hbf, -, haf⟩ := (flatBlocks_cut hcode).1 hc
      refine flatBlocks_element.2 ⟨fun _ code' hcode' => ?_, ?_, ihr hr⟩
      · rw [codeChild?_cut (hbefore.codeChild?_eq_none hb) hcode] at hcode'
        cases hcode'
        exact hs.blocks_eq_nil
      · exact (flatBlocks_cut hcode).2 ⟨ihb hbf, hs.flatBlocks, iha haf⟩

/-- A registry that knows all components of a tree knows those of a revision. -/
theorem unresolvedIn?_eq_none (h : Revises R t u) {registry : Registry}
    (ht : unresolvedIn? registry t = none) : unresolvedIn? registry u = none := by
  induction h with
  | nil => rfl
  | text value _ ih => exact ih ht
  | component tag _ _ ihc ihr =>
      rw [unresolvedIn?_component] at ht ⊢
      by_cases hnone : (registry.resolve? tag.name).isNone
      · rw [if_pos hnone] at ht
        cases ht
      · rw [if_neg hnone, Option.or_eq_none_iff] at ht ⊢
        exact ⟨ihc ht.1, ihr ht.2⟩
  | element _ _ _ _ ihc ihr =>
      rw [unresolvedIn?_element, Option.or_eq_none_iff] at ht ⊢
      exact ⟨ihc ht.1, ihr ht.2⟩
  | link l href _ _ _ _ _ ihc ihr =>
      rw [unresolvedIn?_element, Option.or_eq_none_iff] at ht ⊢
      rw [unresolvedIn?_placeLink]
      exact ⟨ihc ht.1, ihr ht.2⟩
  | recode _ _ _ _ _ hs _ _ _ ihb iha ihr =>
      simp only [unresolvedIn?_element, unresolvedIn?_append, Option.or_eq_none_iff] at ht ⊢
      obtain ⟨⟨hbefore, -, hafter⟩, hrest⟩ := ht
      exact ⟨⟨ihb hbefore, hs.unresolvedIn?_eq_none registry, iha hafter⟩, ihr hrest⟩

end Revises

end Folio
