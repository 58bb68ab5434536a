import Folio.Proofs.Stage.Recode
import Folio.Text.Uppercase

/-!
# Which text is published

An accepted pipeline may keep and publish the text of code more than once, and change code in
between with stages of the user's own.  Keeping takes the text that a block without a source shows
at that point, so what is published in the end is the text that was shown when the last stage before
the last publication kept it.  That is the text before all highlighting only if nothing was
highlighted by then.
-/

namespace Folio

/-- What the blocks of a tree publish as their text. -/
def publishedTexts (t : Tree) : List (Option String) :=
  (blocks t).map fun block => block.head.attribute? "raw"

namespace Stage

/-- A stage of the user's own that gives `code` other children for display. -/
def Rewrites (stage : Stage) : Prop :=
  stage.role = .highlight ∧ ∀ t u, stage.apply t = .ok u → Recodes t u

/-- A built-in stage, or one that changes code for display. -/
def Admitted (stage : Stage) : Prop :=
  stage.isBuiltIn ∨ stage.Rewrites

/-! ## Effects on heads -/

section

variable {stage : Stage} {block : Element} {head : ElementHead}

/-- No built-in stage touches the source of a block. -/
theorem fenceSource_of_effect (hb : stage.isBuiltIn)
    (hblock : isCodeBlock block.head block.children) (he : stage.Effect block head) :
    head.data.fenceSource = block.head.data.fenceSource := by
  cases stage with
  | preserveRawCode =>
      cases he
      rw [keepRaw, if_pos hblock]
  | attachRawCode =>
      obtain ⟨raw, -, rfl⟩ := publishRaw_eq_ok hblock he
      rfl
  | resolveComponents registry => exact congrArg (·.data.fenceSource) he
  | headingAutolinks link => exact congrArg (·.data.fenceSource) he
  | codeTitle => exact congrArg NodeData.fenceSource he.1
  | headingIds => exact congrArg NodeData.fenceSource he.1
  | highlight highlighter => exact congrArg NodeData.fenceSource he.1
  | custom name role run => cases hb

/-- Only keeping touches the kept text of a block. -/
theorem rawText_of_effect (hb : stage.isBuiltIn) (hrole : stage.role ≠ .preserveRaw)
    (hblock : isCodeBlock block.head block.children) (he : stage.Effect block head) :
    head.data.rawText = block.head.data.rawText := by
  cases stage with
  | preserveRawCode => exact (hrole rfl).elim
  | attachRawCode =>
      obtain ⟨raw, -, rfl⟩ := publishRaw_eq_ok hblock he
      rfl
  | resolveComponents registry => exact congrArg (·.data.rawText) he
  | headingAutolinks link => exact congrArg (·.data.rawText) he
  | codeTitle => exact congrArg NodeData.rawText he.1
  | headingIds => exact congrArg NodeData.rawText he.1
  | highlight highlighter => exact congrArg NodeData.rawText he.1
  | custom name role run => cases hb

/-- Only publishing touches the published text of a block. -/
theorem raw_of_effect (hb : stage.isBuiltIn) (hrole : stage.role ≠ .attachRaw)
    (hblock : isCodeBlock block.head block.children) (he : stage.Effect block head) :
    head.attribute? "raw" = block.head.attribute? "raw" := by
  cases stage with
  | attachRawCode => exact (hrole rfl).elim
  | preserveRawCode =>
      cases he
      rw [keepRaw, if_pos hblock]
      rfl
  | resolveComponents registry => exact congrArg (ElementHead.attribute? · "raw") he
  | headingAutolinks link => exact congrArg (ElementHead.attribute? · "raw") he
  | codeTitle => exact he.2 "raw" (by decide)
  | headingIds => exact he.2 "raw" (by decide)
  | highlight highlighter => exact he.2 "raw" (by decide)
  | custom name role run => cases hb

end

/-! ## Steps -/

section

variable {stage : Stage} {t u : Tree}

/-- What a built-in stage leaves alone on the heads of blocks, an admitted stage leaves alone; only
blocks inside replaced code are lost. -/
theorem Admitted.map_blocks_sublist {α : Type} {g : ElementHead → α} (hs : stage.Admitted)
    (hg : stage.isBuiltIn → ∀ block head, isCodeBlock block.head block.children →
      stage.Effect block head → g head = g block.head)
    (h : stage.apply t = .ok u) :
    ((blocks u).map fun block => g block.head).Sublist
      ((blocks t).map fun block => g block.head) := by
  rcases hs with hb | ⟨-, hrewrites⟩
  · exact (Stage.revises_apply hb h).map_blocks_sublist (hg hb)
  · have hheads := (hrewrites t u h).map_head_sublist.map g
    rwa [List.map_map, List.map_map] at hheads

/-- A tree whose code holds no blocks loses no block, and stays such a tree. -/
theorem Admitted.bareCode (hs : stage.Admitted) (h : stage.apply t = .ok u) (ht : BareCode t) :
    BareCode u ∧ (blocks u).length = (blocks t).length := by
  rcases hs with hb | ⟨-, hrewrites⟩
  · have hrev := Stage.revises_apply hb h
    exact ⟨hrev.bareCode ht, (hrev.forall₂_blocks ht.flatBlocks).length_eq.symm⟩
  · have hrec := hrewrites t u h
    exact ⟨hrec.bareCode ht, hrec.length_blocks_eq ht⟩

/-- Only highlighting changes what blocks show. -/
theorem Admitted.blockTexts_eq (hs : stage.Admitted) (hrole : stage.role ≠ .highlight)
    (h : stage.apply t = .ok u) : blockTexts u = blockTexts t := by
  rcases hs with hb | ⟨hhighlight, -⟩
  · rw [Stage.eq_rewrite_of_apply hb hrole h, Stage.blockTexts_rewrite]
  · exact (hrole hhighlight).elim

theorem Admitted.isBuiltIn (hs : stage.Admitted) (hrole : stage.role ≠ .highlight) :
    stage.isBuiltIn := by
  rcases hs with hb | ⟨hhighlight, -⟩
  · exact hb
  · exact (hrole hhighlight).elim

/-- The only admitted stage that keeps texts. -/
theorem Admitted.eq_preserveRawCode (hs : stage.Admitted) (hrole : stage.role = .preserveRaw) :
    stage = .preserveRawCode := by
  have hb := hs.isBuiltIn (by rw [hrole]; decide)
  cases stage with
  | preserveRawCode => rfl
  | custom name role run => cases hb
  | _ => cases hrole

/-- The only admitted stage that publishes texts. -/
theorem Admitted.eq_attachRawCode (hs : stage.Admitted) (hrole : stage.role = .attachRaw) :
    stage = .attachRawCode := by
  have hb := hs.isBuiltIn (by rw [hrole]; decide)
  cases stage with
  | attachRawCode => rfl
  | custom name role run => cases hb
  | _ => cases hrole

end

end Stage

/-! ## Runs -/

section

variable {stages : List Stage} {t u : Tree}

theorem map_blocks_sublist_of_run {α : Type} {g : ElementHead → α}
    (hs : ∀ stage ∈ stages, stage.Admitted)
    (hg : ∀ stage ∈ stages, stage.isBuiltIn → ∀ block head, isCodeBlock block.head block.children →
      stage.Effect block head → g head = g block.head)
    (hu : applyStages stages t = .ok u) :
    ((blocks u).map fun block => g block.head).Sublist
      ((blocks t).map fun block => g block.head) := by
  refine related_of_run (r := fun t u : Tree => ((blocks u).map fun block => g block.head).Sublist
    ((blocks t).map fun block => g block.head)) (fun _ => .refl _) ?_ ?_ hu
  · intro t v u h h'
    exact h'.trans h
  · intro stage hm t u h
    exact (hs stage hm).map_blocks_sublist (hg stage hm) h

theorem bareCode_of_run (hs : ∀ stage ∈ stages, stage.Admitted) (hu : applyStages stages t = .ok u)
    (ht : BareCode t) : BareCode u ∧ (blocks u).length = (blocks t).length := by
  refine related_of_run
    (r := fun t u => BareCode t → BareCode u ∧ (blocks u).length = (blocks t).length)
    (fun _ ht => ⟨ht, rfl⟩) ?_ (fun stage hm _ _ h => (hs stage hm).bareCode h) hu ht
  intro t v u h h' ht
  obtain ⟨hv, hlength⟩ := h ht
  obtain ⟨hu, hlength'⟩ := h' hv
  exact ⟨hu, hlength'.trans hlength⟩

/-- A run without highlighting changes nothing of what blocks show. -/
theorem blockTexts_of_run (hs : ∀ stage ∈ stages, stage.Admitted)
    (hplain : ∀ stage ∈ stages, stage.role ≠ .highlight) (hu : applyStages stages t = .ok u) :
    blockTexts u = blockTexts t :=
  related_of_run (r := fun t u => blockTexts u = blockTexts t) (fun _ => rfl)
    (fun h h' => h'.trans h) (fun stage hm _ _ h => (hs stage hm).blockTexts_eq (hplain stage hm) h)
    hu

/-- The stages before the first highlighting succeed if all do, and change nothing of what blocks
show. -/
theorem exists_beforeHighlight_of_run (hs : ∀ stage ∈ stages, stage.Admitted)
    (hu : applyStages stages t = .ok u) :
    ∃ v, applyStages (stages.takeWhile (·.role != .highlight)) t = .ok v ∧
      blockTexts v = blockTexts t := by
  rw [← List.takeWhile_append_dropWhile (p := (·.role != .highlight)) (l := stages),
    applyStages_append] at hu
  obtain ⟨v, hv, -⟩ := bind_eq_ok_iff.1 hu
  refine ⟨v, hv, blockTexts_of_run (fun stage hm => ?_) (fun stage hm => ?_) hv⟩
  · exact hs stage ((List.takeWhile_sublist _).subset hm)
  · simpa using List.mem_takeWhile_imp hm

/-- A run gives no block a source. -/
theorem fenceSource_of_run (hs : ∀ stage ∈ stages, stage.Admitted)
    (hu : applyStages stages t = .ok u)
    (ht : ∀ block ∈ blocks t, block.head.data.fenceSource = none) :
    ∀ block ∈ blocks u, block.head.data.fenceSource = none := by
  have hsources := map_blocks_sublist_of_run (g := fun head => head.data.fenceSource) hs
    (fun _ _ hb _ _ hblock he => Stage.fenceSource_of_effect hb hblock he) hu
  intro block hm
  obtain ⟨block', hm', heq⟩ := List.mem_map.1 (hsources.subset (List.mem_map_of_mem hm))
  exact heq.symm.trans (ht block' hm')

/-- What is kept of blocks without sources, and published with nothing kept in between and nothing
published later, is the text that the blocks showed when it was kept. -/
theorem publishedTexts_sublist {middle back : List Stage} {w : Tree}
    (hmiddle : ∀ stage ∈ middle, stage.Admitted ∧ stage.role ≠ .preserveRaw)
    (hback : ∀ stage ∈ back, stage.Admitted ∧ stage.role ≠ .attachRaw)
    (hplain : ∀ block ∈ blocks w, block.head.data.fenceSource = none)
    (hrun : applyStages (.preserveRawCode :: (middle ++ .attachRawCode :: back)) w = .ok u) :
    (publishedTexts u).Sublist ((blockTexts w).map some) := by
  obtain ⟨kept, hkept, hrun⟩ := applyStages_cons_eq_ok_iff.1 hrun
  rw [applyStages_append] at hrun
  obtain ⟨x, hx, hrun⟩ := bind_eq_ok_iff.1 hrun
  obtain ⟨y, hy, hrun⟩ := applyStages_cons_eq_ok_iff.1 hrun
  have hlast : (publishedTexts u).Sublist (publishedTexts y) :=
    map_blocks_sublist_of_run (g := fun head => head.attribute? "raw")
      (fun stage hm => (hback stage hm).1)
      (fun stage hm hb _ _ hblock he => Stage.raw_of_effect hb (hback stage hm).2 hblock he) hrun
  have hpublished : (publishedTexts y).Sublist
      ((blocks x).map fun block => block.head.data.rawText) := by
    refine (Stage.revises_apply rfl hy).map_blocks_sublist (g := fun head => head.attribute? "raw")
      ?_
    intro block head hblock he
    obtain ⟨raw, hraw, rfl⟩ := publishRaw_eq_ok hblock he
    rw [ElementHead.attribute?_setAttribute, if_pos rfl, hraw]
  have hbetween : ((blocks x).map fun block => block.head.data.rawText).Sublist
      ((blocks kept).map fun block => block.head.data.rawText) :=
    map_blocks_sublist_of_run (g := fun head => head.data.rawText)
      (fun stage hm => (hmiddle stage hm).1)
      (fun stage hm hb _ _ hblock he => Stage.rawText_of_effect hb (hmiddle stage hm).2 hblock he)
      hx
  have hfirst : ((blocks kept).map fun block => block.head.data.rawText).Sublist
      ((blocks w).map fun block =>
        some (block.head.data.fenceSource.getD (content block.children))) := by
    refine (Stage.revises_apply rfl hkept).map_blocks_sublist (g := fun head => head.data.rawText)
      ?_
    intro block head hblock he
    cases he
    rw [keepRaw, if_pos hblock]
  have hshown : (blocks w).map (fun block =>
      some (block.head.data.fenceSource.getD (content block.children))) =
        (blockTexts w).map some := by
    rw [blockTexts, List.map_map]
    refine List.map_congr_left fun block hm => ?_
    rw [hplain block hm]
    rfl
  rw [hshown] at hfirst
  exact hlast.trans (hpublished.trans (hbetween.trans hfirst))

end

/-! ## Accepted pipelines -/

/-- In an accepted pipeline that publishes texts, some stage keeps them before the last publication;
the last such stage decides.  A run that succeeds on a tree whose blocks have no sources publishes,
in order, the texts that blocks showed when this stage ran, and those of all blocks if no code holds
blocks.  They are the texts from before the first highlighting if nothing was highlighted before
this stage, and otherwise only where highlighting left the texts as they were. -/
theorem publishedTexts_of_accepted_run {parse : ParseOptions} {stages : List Stage}
    {pipeline : Pipeline} (hpipeline : Pipeline.ofStages parse stages = .ok pipeline)
    (hs : ∀ stage ∈ stages, stage.Admitted) (hattach : ∃ stage ∈ stages, stage.role = .attachRaw)
    {tree result : Tree} (hplain : ∀ block ∈ blocks tree, block.head.data.fenceSource = none)
    (hrun : applyStages pipeline.stages tree = .ok result) :
    ∃ front middle back w v,
      stages = front ++ .preserveRawCode :: (middle ++ .attachRawCode :: back) ∧
      (∀ stage ∈ middle, stage.role ≠ .preserveRaw) ∧ (∀ stage ∈ back, stage.role ≠ .attachRaw) ∧
      applyStages front tree = .ok w ∧
      applyStages (stages.takeWhile (·.role != .highlight)) tree = .ok v ∧
      (publishedTexts result).Sublist ((blockTexts w).map some) ∧
      (BareCode tree → publishedTexts result = (blockTexts w).map some) ∧
      ((∀ stage ∈ front, stage.role ≠ .highlight) → blockTexts w = blockTexts v) ∧
      (BareCode tree → (publishedTexts result = (blockTexts v).map some ↔
        blockTexts w = blockTexts v)) := by
  have hordered := pipeline.ordered
  rw [Pipeline.stages_of_ofStages hpipeline] at hordered hrun
  have hkeeps := keepsBeforeAttach_of_orderFault? hordered
  obtain ⟨front, keep, middle, attach, back, rfl, hkeep, hmiddle, hpublish, hback⟩ :=
    hkeeps.exists_last_keep hattach
  have hall := hs
  simp only [List.forall_mem_append, List.forall_mem_cons] at hs
  obtain ⟨hsFront, hsKeep, hsMiddle, hsAttach, hsBack⟩ := hs
  obtain rfl := hsKeep.eq_preserveRawCode hkeep
  obtain rfl := hsAttach.eq_attachRawCode hpublish
  obtain ⟨v, hv, hvTexts⟩ := exists_beforeHighlight_of_run hall hrun
  have hsplit := hrun
  rw [applyStages_append] at hsplit
  obtain ⟨w, hw, hrest⟩ := bind_eq_ok_iff.1 hsplit
  have hplainW := fenceSource_of_run hsFront hw hplain
  have hpublished := publishedTexts_sublist (fun stage hm => ⟨hsMiddle stage hm, hmiddle stage hm⟩)
    (fun stage hm => ⟨hsBack stage hm, hback stage hm⟩) hplainW hrest
  -- No block is lost on the way, so as many texts are published as were kept.
  have hexact : BareCode tree → publishedTexts result = (blockTexts w).map some := by
    intro hbare
    refine hpublished.eq_of_length ?_
    have hlength := (bareCode_of_run hall hrun hbare).2
    have hlengthW := (bareCode_of_run hsFront hw hbare).2
    simp only [publishedTexts, blockTexts, List.length_map]
    omega
  refine ⟨front, middle, back, w, v, rfl, hmiddle, hback, hw, hv, hpublished, hexact, ?_, ?_⟩
  · intro hfront
    rw [hvTexts, blockTexts_of_run hsFront hfront hw]
  · intro hbare
    rw [hexact hbare, List.map_inj_right fun _ _ h => Option.some.inj h]

/-- Highlighting that shows the code of every element in capitals. -/
def capitals : Stage :=
  .custom "uppercase-code" .highlight (replaceCode fun head code =>
    .ok (some ⟨head,
      [.text (String.ofList ((content code.children).toList.flatMap Text.uppercase))]⟩))

theorem admitted_capitals : capitals.Admitted := by
  refine Or.inr ⟨rfl, fun t u h => (recodes_replaceCode ?_ t).1 u h⟩
  intro head code new hnew
  cases hnew
  exact ⟨rfl, rfl⟩

/-- Texts are kept once, and published before and after highlighting. -/
def publishedTwice : List Stage :=
  [.headingIds, .preserveRawCode, .attachRawCode, capitals, .headingAutolinks .wrap, .attachRawCode,
    .preserveRawCode]

/-- A heading with code, and a block without a source. -/
def plainBlock : Tree :=
  [.element (.ofTag "h2") [.element (.ofTag "code") [.text "ls"]],
    .element (.ofTag "pre") [.text "$ ", .element (.ofTag "code") [.text "ls"]]]

theorem publishedTexts_of_publishedTwice :
    ∃ pipeline result front middle back w v, Pipeline.ofStages {} publishedTwice = .ok pipeline ∧
      (∀ stage ∈ publishedTwice, stage.Admitted) ∧
      (∃ stage ∈ publishedTwice, stage.role = .attachRaw) ∧
      (∀ block ∈ blocks plainBlock, block.head.data.fenceSource = none) ∧
      applyStages pipeline.stages plainBlock = .ok result ∧
      publishedTwice = front ++ .preserveRawCode :: (middle ++ .attachRawCode :: back) ∧
      (∀ stage ∈ middle, stage.role ≠ .preserveRaw) ∧ (∀ stage ∈ back, stage.role ≠ .attachRaw) ∧
      applyStages front plainBlock = .ok w ∧
      applyStages (publishedTwice.takeWhile (·.role != .highlight)) plainBlock = .ok v ∧
      BareCode plainBlock ∧ blockTexts v = ["$ ls"] ∧ blockTexts w = blockTexts v ∧
      publishedTexts result = (blockTexts v).map some := by
  have hordered : orderFault? publishedTwice = none := by decide
  have hpipeline : Pipeline.ofStages {} publishedTwice = .ok ⟨{}, publishedTwice, hordered⟩ :=
    Pipeline.ofStages_eq_ok hordered
  have hs : ∀ stage ∈ publishedTwice, stage.Admitted := by
    simp only [publishedTwice, List.forall_mem_cons]
    exact ⟨Or.inl rfl, Or.inl rfl, Or.inl rfl, admitted_capitals, Or.inl rfl, Or.inl rfl,
      Or.inl rfl, fun _ hm => by cases hm⟩
  have hattach : ∃ stage ∈ publishedTwice, stage.role = .attachRaw := by decide
  have hplain : ∀ block ∈ blocks plainBlock, block.head.data.fenceSource = none := by decide
  obtain ⟨result, hresult⟩ : ∃ result, applyStages publishedTwice plainBlock = .ok result :=
    ⟨_, rfl⟩
  have hbare : BareCode plainBlock := by
    intro e he hcode
    revert e
    decide
  have hpublished : publishedTexts result = [some "$ ls"] := by
    have hrun : (applyStages publishedTwice plainBlock).map publishedTexts =
        .ok [some "$ ls"] := by
      decide
    rw [hresult] at hrun
    exact Except.ok.inj hrun
  obtain ⟨front, middle, back, w, v, hsplit, hmiddle, hback, hw, hv, -, -, -, hiff⟩ :=
    publishedTexts_of_accepted_run hpipeline hs hattach hplain hresult
  have hbefore : blockTexts v = ["$ ls"] := by
    have hrun : (applyStages (publishedTwice.takeWhile (·.role != .highlight)) plainBlock).map
        blockTexts = .ok ["$ ls"] := by
      decide
    rw [hv] at hrun
    exact Except.ok.inj hrun
  have hsame : publishedTexts result = (blockTexts v).map some := by
    rw [hpublished, hbefore]
    rfl
  exact ⟨_, result, front, middle, back, w, v, hpipeline, hs, hattach, hplain, hresult, hsplit,
    hmiddle, hback, hw, hv, hbare, hbefore, (hiff hbare).1 hsame, hsame⟩

/-- Texts are kept once more after highlighting. -/
def keptTwice : List Stage :=
  [.preserveRawCode, capitals, .preserveRawCode, .attachRawCode]

/-- An accepted pipeline publishes the capitals of its own display, not the text it kept first. -/
theorem not_publishedTexts_of_keptTwice :
    ∃ pipeline v result, Pipeline.ofStages {} keptTwice = .ok pipeline ∧
      (∀ stage ∈ keptTwice, stage.Admitted) ∧
      (∀ block ∈ blocks plainBlock,
        block.head.data.fenceSource = none ∧ blocks block.children = []) ∧
      applyStages (keptTwice.takeWhile (·.role != .highlight)) plainBlock = .ok v ∧
      applyStages pipeline.stages plainBlock = .ok result ∧
      blockTexts v = ["$ ls"] ∧ publishedTexts result = [some "$ LS"] := by
  have hordered : orderFault? keptTwice = none := by decide
  have hs : ∀ stage ∈ keptTwice, stage.Admitted := by
    simp only [keptTwice, List.forall_mem_cons]
    exact ⟨Or.inl rfl, admitted_capitals, Or.inl rfl, Or.inl rfl, fun _ hm => by cases hm⟩
  have hplain : ∀ block ∈ blocks plainBlock,
      block.head.data.fenceSource = none ∧ blocks block.children = [] := by
    intro block hm
    obtain rfl := List.mem_singleton.1 hm
    exact ⟨rfl, rfl⟩
  exact ⟨_, _, _, Pipeline.ofStages_eq_ok hordered, hs, hplain, rfl, rfl, by decide, by decide⟩

end Folio
