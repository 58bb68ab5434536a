import Folio.Proofs.Pipeline.Run

/-!
# The published text of code

In an accepted order of built-in stages the text of every code block is kept when it is to be
published, and what is published for a fenced block is the interior of its fence.

The invariant of a run has two forms: either every block already has its text kept, or no stage that
publishes text is left before one that keeps it.
-/

namespace Folio

/-! ## Blocks with a text -/

/-- The text of a block is kept: that of its fence, where it has one. -/
def Kept (head : ElementHead) : Prop :=
  ∃ raw, head.data.rawText = some raw ∧ ∀ source, head.data.fenceSource = some source → raw = source

/-- The text of a block is published: that of its fence, where it has one. -/
def Published (head : ElementHead) : Prop :=
  ∃ raw, head.attribute? "raw" = some raw ∧
    ∀ source, head.data.fenceSource = some source → raw = source

/-- All code blocks of a tree have a property. -/
def EachBlock (P : ElementHead → Prop) (t : Tree) : Prop :=
  ∀ block ∈ blocks t, P block.head

theorem Kept.of_data {head head' : ElementHead} (h : Kept head) (hdata : head'.data = head.data) :
    Kept head' := by
  obtain ⟨raw, hraw, hsource⟩ := h
  exact ⟨raw, by rw [hdata, hraw], fun source hs => hsource source (by rw [← hdata, hs])⟩

theorem Published.of_keeps {names : List String} {e : Element} {head : ElementHead}
    (h : Published e.head) (hk : Keeps names e head) (hn : "raw" ∉ names) : Published head := by
  obtain ⟨raw, hraw, hsource⟩ := h
  refine ⟨raw, ?_, fun source hs => hsource source ?_⟩
  · rw [hk.2 "raw" hn, hraw]
  · rw [← hk.1, hs]

/-- A property that a revision keeps on the head of each block is kept on the tree. -/
theorem EachBlock.revises {P Q : ElementHead → Prop} {R : Element → ElementHead → Prop} {t u : Tree}
    (h : EachBlock P t) (hrev : Revises R t u)
    (hR : ∀ block head, isCodeBlock block.head block.children → R block head →
      P block.head → Q head) : EachBlock Q u := by
  intro block' hb
  obtain ⟨block, hm, hr⟩ := hrev.exists_of_mem_blocks hb
  exact hR block block'.head (List.mem_filter.1 hm).2 hr (h block hm)

/-! ## Steps -/

section

variable {stage : Stage} {block : Element} {head : ElementHead}

/-- The text of a block that was kept by `keepRaw`. -/
theorem kept_keepRaw (hblock : isCodeBlock block.head block.children) :
    Kept (keepRaw block.head block.children) := by
  rw [keepRaw, if_pos hblock]
  refine ⟨_, rfl, fun source hs => ?_⟩
  have hfence : block.head.data.fenceSource = some source := hs
  rw [hfence]
  rfl

/-- A stage keeps the text of a block, or leaves the one that is kept. -/
theorem kept_of_effect (hb : stage.isBuiltIn) (hblock : isCodeBlock block.head block.children)
    (he : stage.Effect block head) (h : stage.role = .preserveRaw ∨ Kept block.head) :
    Kept head := by
  have hkeep {names : List String} (hk : Keeps names block head)
      (hrole : stage.role ≠ .preserveRaw) : Kept head :=
    (h.resolve_left hrole).of_data hk.1
  cases stage with
  | preserveRawCode =>
      cases he
      exact kept_keepRaw hblock
  | attachRawCode =>
      obtain ⟨raw, -, rfl⟩ := publishRaw_eq_ok hblock he
      exact (h.resolve_left (by decide)).of_data rfl
  | resolveComponents registry =>
      cases he
      exact h.resolve_left (by simp [Stage.role])
  | headingAutolinks link =>
      cases he
      exact h.resolve_left (by simp [Stage.role])
  | codeTitle => exact hkeep he (by simp [Stage.role])
  | headingIds => exact hkeep he (by simp [Stage.role])
  | highlight highlighter => exact hkeep he (by simp [Stage.role])
  | custom name role run => cases hb

/-- A stage publishes the kept text of a block, or leaves the one that is published. -/
theorem published_of_effect (hb : stage.isBuiltIn) (hblock : isCodeBlock block.head block.children)
    (he : stage.Effect block head)
    (h : stage.role = .attachRaw ∧ Kept block.head ∨
      stage.role ≠ .attachRaw ∧ Published block.head) :
    Published head := by
  cases stage with
  | attachRawCode =>
      obtain ⟨raw, hraw, rfl⟩ := publishRaw_eq_ok hblock he
      obtain ⟨-, raw', hraw', hsource⟩ := h.resolve_right fun hne => hne.1 rfl
      rw [hraw] at hraw'
      cases hraw'
      exact ⟨raw, by rw [ElementHead.attribute?_setAttribute, if_pos rfl], hsource⟩
  | preserveRawCode =>
      cases he
      obtain ⟨-, raw, hraw, hsource⟩ := h.resolve_left fun hne => by cases hne.1
      rw [keepRaw, if_pos hblock]
      exact ⟨raw, hraw, hsource⟩
  | resolveComponents registry =>
      cases he
      exact (h.resolve_left fun hne => by cases hne.1).2
  | headingAutolinks link =>
      cases he
      exact (h.resolve_left fun hne => by cases hne.1).2
  | codeTitle => exact (h.resolve_left fun hne => by cases hne.1).2.of_keeps he (by decide)
  | headingIds => exact (h.resolve_left fun hne => by cases hne.1).2.of_keeps he (by decide)
  | highlight highlighter =>
      exact (h.resolve_left fun hne => by cases hne.1).2.of_keeps he (by decide)
  | custom name role run => cases hb

end

/-! ## The invariant of a run -/

/-- Before the given stages run on a tree, every text that they publish is kept or will be. -/
def RawReady (stages : List Stage) (t : Tree) : Prop :=
  EachBlock Kept t ∨ KeepsBeforeAttach stages

section

variable {stage : Stage} {stages : List Stage} {t u : Tree}

theorem RawReady.kept (h : RawReady (stage :: stages) t) (hrole : stage.role = .attachRaw) :
    EachBlock Kept t := by
  rcases h with h | h
  · exact h
  · rcases keepsBeforeAttach_cons.1 h with hkeep | ⟨hne, -⟩
    · rw [hrole] at hkeep
      cases hkeep
    · exact (hne hrole).elim

/-- One stage keeps the invariant. -/
theorem RawReady.step (h : RawReady (stage :: stages) t) (hb : stage.isBuiltIn)
    (hu : stage.apply t = .ok u) : RawReady stages u := by
  have hrev := Stage.revises_apply hb hu
  rcases h with h | h
  · exact Or.inl (h.revises hrev fun _ _ hblock he hk => kept_of_effect hb hblock he (Or.inr hk))
  · rcases keepsBeforeAttach_cons.1 h with hkeep | ⟨-, h⟩
    · -- This stage keeps the text of every block, whatever was kept before it.
      have hall : EachBlock (fun _ => True) t := fun _ _ => trivial
      exact Or.inl (hall.revises hrev fun _ _ hblock he _ =>
        kept_of_effect hb hblock he (Or.inl hkeep))
    · exact Or.inr h

/-- A stage that the invariant holds for and that accepts the tree succeeds. -/
theorem RawReady.exists_apply (h : RawReady (stage :: stages) t) (hb : stage.isBuiltIn)
    (ha : stage.Accepts t) : ∃ u, stage.apply t = .ok u := by
  cases stage with
  | resolveComponents registry =>
      have hknown : unresolvedIn? registry t = none := ha
      exact ⟨t, by simp only [Stage.apply, resolveComponents, hknown]⟩
  | highlight highlighter => exact exists_highlightTree ha t
  | attachRawCode =>
      refine exists_attachRaw fun block hm => ?_
      obtain ⟨raw, hraw, -⟩ := h.kept rfl block hm
      rw [hraw]
      rfl
  | custom name role run => cases hb
  | _ => exact ⟨_, rfl⟩

/-- A stage that the invariant holds for may fail, but not for a text that is missing. -/
theorem RawReady.apply_ne_internal (h : RawReady (stage :: stages) t) (hb : stage.isBuiltIn)
    (fault : InternalFault) : stage.apply t ≠ .error (.internal fault) := by
  intro herror
  cases stage with
  | resolveComponents registry =>
      simp only [Stage.apply, resolveComponents] at herror
      split at herror
      · cases herror
      · cases herror
  | highlight highlighter =>
      obtain ⟨_, _, heq⟩ := highlightTree_eq_error herror
      cases heq
  | attachRawCode =>
      obtain ⟨u, hu⟩ := h.exists_apply hb trivial
      rw [hu] at herror
      cases herror
  | custom name role run => cases hb
  | _ => cases herror

/-! ## Runs -/

/-- The first part of a run keeps the invariant for the second part. -/
theorem RawReady.run {rest : List Stage} (h : RawReady (stages ++ rest) t)
    (hb : ∀ stage ∈ stages, stage.isBuiltIn) (hu : applyStages stages t = .ok u) :
    RawReady rest u := by
  induction stages generalizing t with
  | nil =>
      cases hu
      exact h
  | cons stage stages ih =>
      rw [List.forall_mem_cons] at hb
      obtain ⟨v, hv, hu⟩ := applyStages_cons_eq_ok_iff.1 hu
      exact ih (h.step hb.1 hv) hb.2 hu

/-- No run fails for a text that is missing. -/
theorem RawReady.run_ne_internal (h : RawReady stages t) (hb : ∀ stage ∈ stages, stage.isBuiltIn)
    (fault : InternalFault) : applyStages stages t ≠ .error (.internal fault) := by
  induction stages generalizing t with
  | nil =>
      intro herror
      cases herror
  | cons stage stages ih =>
      rw [List.forall_mem_cons] at hb
      intro herror
      rcases applyStages_cons_eq_error_iff.1 herror with herror | ⟨v, hv, herror⟩
      · exact h.apply_ne_internal hb.1 fault herror
      · exact ih (h.step hb.1 hv) hb.2 herror

/-- A run of stages that accept the tree succeeds. -/
theorem RawReady.exists_run (h : RawReady stages t) (hb : ∀ stage ∈ stages, stage.isBuiltIn)
    (ha : ∀ stage ∈ stages, stage.Accepts t) : ∃ u, applyStages stages t = .ok u := by
  induction stages generalizing t with
  | nil => exact ⟨t, rfl⟩
  | cons stage stages ih =>
      rw [List.forall_mem_cons] at hb ha
      obtain ⟨v, hv⟩ := h.exists_apply hb.1 ha.1
      have hrev := Stage.revises_apply hb.1 hv
      obtain ⟨u, hu⟩ := ih (h.step hb.1 hv) hb.2 fun other hm => (ha.2 other hm).revises hrev
      exact ⟨u, applyStages_cons_eq_ok_iff.2 ⟨v, hv, hu⟩⟩

/-- A run that publishes texts, or starts from published ones, ends with published texts. -/
theorem RawReady.run_published (h : RawReady stages t) (hb : ∀ stage ∈ stages, stage.isBuiltIn)
    (hu : applyStages stages t = .ok u)
    (hp : (∃ stage ∈ stages, stage.role = .attachRaw) ∨ EachBlock Published t) :
    EachBlock Published u := by
  induction stages generalizing t with
  | nil =>
      cases hu
      exact hp.resolve_left fun ⟨_, hm, _⟩ => by cases hm
  | cons stage stages ih =>
      rw [List.forall_mem_cons] at hb
      obtain ⟨v, hv, hu⟩ := applyStages_cons_eq_ok_iff.1 hu
      have hrev := Stage.revises_apply hb.1 hv
      refine ih (h.step hb.1 hv) hb.2 hu ?_
      -- A stage that publishes does so for all blocks; any other one leaves what is published.
      by_cases hrole : stage.role = .attachRaw
      · exact Or.inr ((h.kept hrole).revises hrev fun _ _ hblock he hk =>
          published_of_effect hb.1 hblock he (Or.inl ⟨hrole, hk⟩))
      · rcases hp with ⟨other, hm, hother⟩ | hp
        · rcases List.mem_cons.1 hm with rfl | hm
          · exact (hrole hother).elim
          · exact Or.inl ⟨other, hm, hother⟩
        · exact Or.inr (hp.revises hrev fun _ _ hblock he hpub =>
            published_of_effect hb.1 hblock he (Or.inr ⟨hrole, hpub⟩))

end

/-! ## Accepted pipelines -/

/-- A run of an accepted pipeline of built-in stages, on any tree, does not fail for a text that is
missing; it succeeds if its registries know the components of the tree and its highlighters cut
every line; and if one of its stages publishes texts, then every code block of the result has its
text published, which is the interior of its fence where it has one. -/
theorem raw_of_accepted_run {parse : ParseOptions} {stages : List Stage} {pipeline : Pipeline}
    (hpipeline : Pipeline.ofStages parse stages = .ok pipeline)
    (hb : ∀ stage ∈ stages, stage.isBuiltIn) (tree : Tree) :
    (∀ fault, applyStages pipeline.stages tree ≠ .error (.internal fault)) ∧
      ((∀ stage ∈ stages, stage.Accepts tree) →
        ∃ result, applyStages pipeline.stages tree = .ok result) ∧
      ∀ result, applyStages pipeline.stages tree = .ok result →
        (∃ stage ∈ stages, stage.role = .attachRaw) →
        ∀ block ∈ elements result, isCodeBlock block.head block.children →
          ∃ raw, block.head.attribute? "raw" = some raw ∧
            ∀ source, block.head.data.fenceSource = some source → raw = source := by
  have hordered := pipeline.ordered
  rw [Pipeline.stages_of_ofStages hpipeline] at hordered ⊢
  have hready : RawReady stages tree := Or.inr (keepsBeforeAttach_of_orderFault? hordered)
  refine ⟨hready.run_ne_internal hb, hready.exists_run hb,
    fun result hresult hattach block hm hc => ?_⟩
  exact hready.run_published hb hresult (Or.inl hattach) block (List.mem_filter.2 ⟨hm, hc⟩)

/-- Stages that keep and publish the text of code twice, with highlighting in between. -/
def repeatedStages : List Stage :=
  [.headingIds, .resolveComponents (Registry.ofBindings [Binding.ofName "Tabs"]), .preserveRawCode,
    .highlight (Highlighter.plain ⟨"plain", "#ffffff", "#000000"⟩), .attachRawCode, .codeTitle,
    .headingAutolinks .wrap, .preserveRawCode, .attachRawCode]

/-- A component with a heading and a fenced block whose lines end in carriage returns. -/
def fencedTabs : Tree :=
  [.component { name := "Tabs" }
    [.element (.ofTag "h2") [.text "Use"],
      .element { tag := "pre", data := { fenceSource := some "a\r\n" } }
        [.element (.ofTag "code") [.text "a\n"]]]]

theorem raw_of_repeatedStages :
    ∃ pipeline result, Pipeline.ofStages {} repeatedStages = .ok pipeline ∧
      (∀ stage ∈ repeatedStages, stage.isBuiltIn) ∧
      (∀ stage ∈ repeatedStages, stage.Accepts fencedTabs) ∧
      (∃ stage ∈ repeatedStages, stage.role = .attachRaw) ∧
      applyStages pipeline.stages fencedTabs = .ok result ∧
      ∀ block ∈ elements result, isCodeBlock block.head block.children →
        ∃ raw, block.head.attribute? "raw" = some raw ∧
          ∀ source, block.head.data.fenceSource = some source → raw = source := by
  have hordered : orderFault? repeatedStages = none := by decide
  have hb : ∀ stage ∈ repeatedStages, stage.isBuiltIn := by decide
  have hattach : ∃ stage ∈ repeatedStages, stage.role = .attachRaw := by decide
  have ha : ∀ stage ∈ repeatedStages, stage.Accepts fencedTabs := by
    simp only [repeatedStages, List.forall_mem_cons, Stage.Accepts, true_and]
    exact ⟨by decide, Highlighter.total_plain _, fun _ hm => by cases hm⟩
  have hpipeline : Pipeline.ofStages {} repeatedStages = .ok ⟨{}, repeatedStages, hordered⟩ :=
    Pipeline.ofStages_eq_ok hordered
  obtain ⟨-, hrun, hraw⟩ := raw_of_accepted_run hpipeline hb fencedTabs
  obtain ⟨result, hresult⟩ := hrun ha
  exact ⟨_, result, hpipeline, hb, ha, hattach, hresult, hraw result hresult hattach⟩

end Folio
