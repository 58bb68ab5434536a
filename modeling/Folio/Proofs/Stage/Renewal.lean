import Folio.Proofs.Stage.Highlight

/-!
# Renewed blocks

Replacing code says of each block what its head and its `code` have become.  The blocks of the new
tree are those of the old one with a new head and a new body each; only the blocks inside replaced
code are gone.
-/

namespace Folio

section

variable {ε : Type} {f : ElementHead → Element → Except ε (Option NewCode)}

/-- A block has the new head and its code the new body that it gets. -/
def Renewed (f : ElementHead → Element → Except ε (Option NewCode)) (block block' : Element) :
    Prop :=
  ∃ code new, codeChild? block.children = some code ∧ f block.head code = .ok (some new) ∧
    block'.head = new.head ∧ codeChild? block'.children = some ⟨code.head, new.body⟩

/-- Where code is replaced in a tree the blocks are renewed; and where its first `code` gets a new
body, so are the blocks around it. -/
structure Renews (f : ElementHead → Element → Except ε (Option NewCode)) (t : Tree) : Prop where
  all : ∀ u, replaceCode f t = .ok u → Traces (Renewed f) (FlatBlocks t) (blocks t) (blocks u)
  first : ∀ body u code, blocks body = [] → codeChild? t = some code →
    replaceFirst f body t = .ok u →
      Traces (Renewed f) (FlatBlocks t ∧ blocks code.children = []) (blocks t) (blocks u) ∧
        codeChild? u = some ⟨code.head, body⟩

theorem Renews.all_cons {node node' : Node} {rest u : List Node} (h : Renews f rest)
    (hnode : Traces (Renewed f) (FlatBlocks [node]) (blocks [node]) (blocks [node']))
    (hrest : replaceCode f rest = .ok u) :
    Traces (Renewed f) (FlatBlocks (node :: rest)) (blocks (node :: rest)) (blocks (node' :: u)) :=
  (Traces.cons hnode ((h.all u hrest).imp And.left)).imp fun hflat => ⟨hflat, trivial⟩

/-- A node that is no `code` is renewed on its own. -/
theorem Renews.cons {node : Node} {rest : List Node} (h : Renews f rest)
    (hcode : codeChild? [node] = none)
    (hnode : ∀ node', node.replaceCode f = .ok node' → codeChild? [node'] = none ∧
      Traces (Renewed f) (FlatBlocks [node]) (blocks [node]) (blocks [node'])) :
    Renews f (node :: rest) := by
  have hskip : ∀ {node : Node} (rest : List Node), codeChild? [node] = none →
      codeChild? (node :: rest) = codeChild? rest := by
    intro node rest hcode
    rw [← List.singleton_append, codeChild?_append, hcode, Option.none_or]
  constructor
  case all =>
    intro u hu
    obtain ⟨node', rest', hn, hr, rfl⟩ := replaceCode_cons_eq_ok_iff.1 hu
    exact h.all_cons (hnode node' hn).2 hr
  case first =>
    intro body u code hbody hsome hu
    obtain ⟨node', rest', hn, hr, rfl⟩ := (replaceFirst_cons_eq_ok_iff hcode).1 hu
    obtain ⟨hcode', htraces⟩ := hnode node' hn
    rw [hskip rest hcode] at hsome
    obtain ⟨hrest, hfirst⟩ := h.first body rest' code hbody hsome hr
    exact ⟨Traces.cons htraces hrest, (hskip rest' hcode').trans hfirst⟩

variable (hsome : ∀ head code new, f head code = .ok (some new) → head.tag = "pre" ∧
    new.head.tag = head.tag ∧ Spans new.body)
  (hnone : ∀ head code, f head code = .ok none → head.tag ≠ "pre")
include hsome hnone

/-- What is no block has no `code` that is replaced, and is none afterwards. -/
theorem isCodeBlock_of_kept {head : ElementHead} {children children' : List Node}
    (hkept : ∀ code, codeChild? children = some code → f head code = .ok none)
    (h : replaceCode f children = .ok children') :
    isCodeBlock head children = false ∧ isCodeBlock head children' = false := by
  cases hcode : codeChild? children with
  | none =>
      have hrevises : Revises (fun _ _ => True) children children' :=
        (replaces_of (fun _ => trivial) (fun head code new hnew => by
          obtain ⟨hpre, htag, hspans⟩ := hsome head code new hnew
          exact ⟨hpre, htag, hspans, fun _ => trivial⟩) children).1 children' h
      rw [isCodeBlock, isCodeBlock, hcode, hrevises.codeChild?_eq_none hcode]
      simp
  | some code =>
      have hne := hnone head code (hkept code hcode)
      exact ⟨isCodeBlock_eq_false hne _, isCodeBlock_eq_false hne _⟩

/-- An element is renewed if it is a block, and otherwise what is in it. -/
theorem Renews.element {head : ElementHead} {children : List Node} (h : Renews f children)
    {node' : Node} (hnode : (Node.element head children).replaceCode f = .ok node') :
    (∃ head' children', node' = .element head' children' ∧ head'.tag = head.tag) ∧
      Traces (Renewed f) (FlatBlocks [.element head children]) (blocks [.element head children])
        (blocks [node']) := by
  rcases replaceCode_element_eq_ok_iff.1 hnode with
    ⟨hkept, children', hc, rfl⟩ | ⟨code, new, children', hcode, hnew, hc, rfl⟩
  · refine ⟨⟨head, children', rfl, rfl⟩, ?_⟩
    obtain ⟨hold, hother⟩ := isCodeBlock_of_kept hsome hnone hkept hc
    rw [blocks_element, blocks_element, hold, hother]
    refine (Traces.nil.append ((h.all children' hc).append Traces.nil)).imp fun hflat => ?_
    exact ⟨trivial, (flatBlocks_element.1 hflat).2.1, trivial⟩
  · obtain ⟨hpre, htag, hspans⟩ := hsome head code new hnew
    obtain ⟨hchildren, hcode'⟩ := h.first new.body children' code hspans.blocks_eq_nil hcode hc
    refine ⟨⟨new.head, children', rfl, htag⟩, ?_⟩
    have hold : isCodeBlock head children = true := by simp [isCodeBlock, hpre, hcode]
    have hother : isCodeBlock new.head children' = true := by
      simp [isCodeBlock, htag, hpre, hcode']
    rw [blocks_element, blocks_element, hold, hother]
    have hblock : Renewed f ⟨head, children⟩ ⟨new.head, children'⟩ :=
      ⟨code, new, hcode, hnew, rfl, hcode'⟩
    refine ((Traces.single hblock).append (hchildren.append Traces.nil)).imp fun hflat => ?_
    obtain ⟨hbody, hinner, -⟩ := flatBlocks_element.1 hflat
    exact ⟨trivial, ⟨hinner, hbody hold code hcode⟩, trivial⟩

/-- Replacing code renews the blocks of a tree, if the code of each `pre` is replaced and no other,
and the new body is made of spans. -/
theorem renews (t : Tree) : Renews f t := by
  induction t using tree_induction with
  | nil =>
      constructor
      · intro u h
        cases h
        exact Traces.nil.imp fun _ => trivial
      · intro body u code _ hcode
        cases hcode
  | element head children rest ihc ihr =>
      by_cases hcode : head.tag = "code"
      · constructor
        · intro u hu
          obtain ⟨node', rest', hn, hr, rfl⟩ := replaceCode_cons_eq_ok_iff.1 hu
          exact ihr.all_cons (ihc.element hsome hnone hn).2 hr
        · intro body u code hbody hfirst hu
          obtain ⟨rest', hr, rfl⟩ := (replaceFirst_code_eq_ok_iff hcode).1 hu
          rw [codeChild?_element, if_pos hcode] at hfirst ⊢
          cases hfirst
          rw [blocks_code hcode, blocks_code hcode, hbody]
          -- The blocks of the old body are gone, and the new one has none.
          refine ⟨((Traces.dropped (blocks children)).append (ihr.all rest' hr)).imp ?_, rfl⟩
          rintro ⟨hflat, hnone⟩
          exact ⟨hnone, (flatBlocks_element.1 hflat).2.2⟩
      · refine ihr.cons (codeChild?_singleton hcode children) fun node' h => ?_
        obtain ⟨⟨head', children', rfl, htag⟩, htraces⟩ := ihc.element hsome hnone h
        exact ⟨codeChild?_singleton (htag ▸ hcode) children', htraces⟩
  | component tag children rest ihc ihr =>
      refine ihr.cons rfl fun node' h => ?_
      obtain ⟨children', hc, rfl⟩ := replaceCode_component_eq_ok_iff.1 h
      rw [blocks_component, blocks_component]
      refine ⟨rfl, ((ihc.all children' hc).append Traces.nil).imp fun hflat => ?_⟩
      exact ⟨(flatBlocks_component.1 hflat).1, trivial⟩
  | text value rest ih =>
      refine ih.cons rfl fun node' h => ?_
      cases h
      exact ⟨rfl, Traces.nil.imp fun _ => trivial⟩

end

end Folio
