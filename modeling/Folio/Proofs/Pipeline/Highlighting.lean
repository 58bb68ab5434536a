import Folio.Proofs.Pipeline.RawText

/-!
# Highlighting and the published text

Whether the standard stages highlight code does not show in the titles and the texts that readers
get for code blocks, nor in whether and how a document fails.
-/

namespace Folio

/-- The titles and the published texts of the code blocks of a tree, in document order. -/
def titlesAndTexts (tree : Tree) : List (Option String × Option String) :=
  (codeBlocks tree).map fun block => (block.title, block.raw)

/-- The titles and the kept texts of the code blocks of a tree, in document order. -/
def titlesAndKept (tree : Tree) : List (Option String × Option String) :=
  (blocks tree).map fun block => (block.head.attribute? "data-title", block.head.data.rawText)

/-- Publishing shows the text that was kept, and no other title. -/
theorem titlesAndTexts_of_attachRaw {t u : Tree} (hflat : FlatBlocks t) (h : attachRaw t = .ok u) :
    titlesAndTexts u = titlesAndKept t := by
  rw [titlesAndTexts, map_codeBlocks]
  refine (revises_attachRaw h).map_blocks_eq
    (g := fun head => (head.attribute? "data-title", head.attribute? "raw")) hflat ?_
  intro block head hblock hpublish
  obtain ⟨raw, hraw, rfl⟩ := publishRaw_eq_ok hblock hpublish
  rw [ElementHead.attribute?_setAttribute, ElementHead.attribute?_setAttribute,
    if_neg (by decide), if_pos rfl, hraw]

/-- Highlighting a flat tree changes neither titles nor kept texts. -/
theorem titlesAndKept_of_highlightTree {highlighter : Highlighter} {t u : Tree}
    (hflat : FlatBlocks t) (h : highlightTree highlighter t = .ok u) :
    titlesAndKept u = titlesAndKept t := by
  refine (revises_highlightTree h).map_blocks_eq
    (g := fun head => (head.attribute? "data-title", head.data.rawText)) hflat ?_
  intro block head _ hkeeps
  rw [hkeeps.1, hkeeps.2 "data-title" (by decide)]

/-- The standard stages before highlighting. -/
def plainStages (registry : Registry) (link : SelfLink) : List Stage :=
  [.resolveComponents registry, .preserveRawCode, .codeTitle, .headingIds, .headingAutolinks link]

/-- Highlighting before publishing makes no difference after stages that keep every text. -/
theorem map_titlesAndTexts_highlight {stages : List Stage} {highlighter : Highlighter} {t : Tree}
    (hb : ∀ stage ∈ stages, stage.isBuiltIn)
    (hready : RawReady (stages ++ [.attachRawCode]) t) (htotal : highlighter.Total)
    (hflat : FlatBlocks t) :
    (applyStages (stages ++ [.highlight highlighter, .attachRawCode]) t).map titlesAndTexts =
      (applyStages (stages ++ [.attachRawCode]) t).map titlesAndTexts := by
  rw [applyStages_append, applyStages_append]
  cases hrun : applyStages stages t with
  | error error => rfl
  | ok v =>
      -- The runs part here, on a tree in which every text is kept.
      have hkept := (hready.run hb hrun).kept rfl
      have hflatv := flatBlocks_of_run hb hflat hrun
      have hreadyv : RawReady [.highlight highlighter, .attachRawCode] v := Or.inl hkept
      have hreadyoff : RawReady [.attachRawCode] v := Or.inl hkept
      obtain ⟨w, hw⟩ := exists_highlightTree htotal v
      have hreadyw : RawReady [.attachRawCode] w := hreadyv.step rfl hw
      obtain ⟨x, hx⟩ := hreadyw.exists_apply rfl trivial
      obtain ⟨y, hy⟩ := hreadyoff.exists_apply rfl trivial
      have hflatw := (revises_highlightTree hw).flatBlocks hflatv
      have hon : applyStages [.highlight highlighter, .attachRawCode] v = .ok x :=
        applyStages_cons_eq_ok_iff.2 ⟨w, hw, applyStages_cons_eq_ok_iff.2 ⟨x, hx, rfl⟩⟩
      have hoff : applyStages [.attachRawCode] v = .ok y :=
        applyStages_cons_eq_ok_iff.2 ⟨y, hy, rfl⟩
      show (applyStages [.highlight highlighter, .attachRawCode] v).map titlesAndTexts =
        (applyStages [.attachRawCode] v).map titlesAndTexts
      rw [hon, hoff]
      show Except.ok (titlesAndTexts x) = Except.ok (titlesAndTexts y)
      rw [titlesAndTexts_of_attachRaw hflatw hx, titlesAndTexts_of_attachRaw hflatv hy,
        titlesAndKept_of_highlightTree hflatv hw]

/-! ## The standard stages -/

theorem standardStages_highlight (registry : Registry) (options : CompileOptions)
    (highlighter : Theme → Highlighter) {theme : Theme}
    (htheme : Theme.find options.theme = .ok theme) :
    Pipeline.standardStages registry { options with highlight := true } highlighter =
      .ok (plainStages registry options.autolink ++
        [.highlight (highlighter theme), .attachRawCode]) := by
  unfold Pipeline.standardStages
  rw [if_pos rfl, htheme]
  rfl

theorem standardStages_plain (registry : Registry) (options : CompileOptions)
    (highlighter : Theme → Highlighter) :
    Pipeline.standardStages registry { options with highlight := false } highlighter =
      .ok (plainStages registry options.autolink ++ [.attachRawCode]) :=
  rfl

/-- On a tree in which no code block is part of the code of another one, the standard stages with
highlighting in any theme that exists and the same stages without it are both in an accepted order;
if the highlighter cuts every line, then they fail alike, or both succeed with the same titles and
texts of code blocks. -/
theorem titlesAndTexts_of_standardStages (registry : Registry) (options : CompileOptions)
    (highlighter : Theme → Highlighter) {theme : Theme}
    (htheme : Theme.find options.theme = .ok theme) (htotal : (highlighter theme).Total)
    {tree : Tree} (hflat : FlatBlocks tree) :
    ∃ on off,
      Pipeline.standardStages registry { options with highlight := true } highlighter = .ok on ∧
      Pipeline.standardStages registry { options with highlight := false } highlighter = .ok off ∧
      orderFault? on = none ∧ orderFault? off = none ∧
      (applyStages on tree).map titlesAndTexts = (applyStages off tree).map titlesAndTexts := by
  have horder : orderFault? (plainStages registry options.autolink ++ [.attachRawCode]) = none :=
    rfl
  have hready : RawReady (plainStages registry options.autolink ++ [.attachRawCode]) tree :=
    Or.inr (keepsBeforeAttach_of_orderFault? horder)
  have hb : ∀ stage ∈ plainStages registry options.autolink, stage.isBuiltIn := by
    simp [plainStages, Stage.isBuiltIn]
  exact ⟨_, _, standardStages_highlight registry options highlighter htheme,
    standardStages_plain registry options highlighter, rfl, horder,
    map_titlesAndTexts_highlight hb hready htotal hflat⟩

/-- A quoted block with a title, and a block without one in a list. -/
def titledBlocks : Tree :=
  [.element (.ofTag "blockquote")
      [.element { tag := "pre", data := { fenceSource := some "a\r\nb\n" } }
        [.element ((ElementHead.ofTag "code").setAttribute "class" "language-js:x.js")
          [.text "a\nb\n"]]],
    .element (.ofTag "ul") [.element (.ofTag "li") [.element (.ofTag "pre")
      [.element (.ofTag "code") [.text "c"]]]]]

theorem titlesAndTexts_of_titledBlocks :
    ∃ theme, Theme.find Theme.defaultName = .ok theme ∧ (Highlighter.plain theme).Total ∧
      FlatBlocks titledBlocks ∧
      ∃ on off,
        Pipeline.standardStages {} { highlight := true } Highlighter.plain = .ok on ∧
        Pipeline.standardStages {} { highlight := false } Highlighter.plain = .ok off ∧
        orderFault? on = none ∧ orderFault? off = none ∧
        (applyStages on titledBlocks).map titlesAndTexts =
          (applyStages off titledBlocks).map titlesAndTexts := by
  have htheme : Theme.find Theme.defaultName = .ok ⟨"base16-ocean.dark", "#2b303b", "#c0c5ce"⟩ := by
    decide
  have hflat : FlatBlocks titledBlocks := by
    simp [titledBlocks, FlatBlocks, ElementHead.ofTag, isCodeBlock, codeChild?_element]
  have htotal := Highlighter.total_plain ⟨"base16-ocean.dark", "#2b303b", "#c0c5ce"⟩
  exact ⟨_, htheme, htotal, hflat,
    titlesAndTexts_of_standardStages {} {} Highlighter.plain htheme htotal hflat⟩

end Folio
