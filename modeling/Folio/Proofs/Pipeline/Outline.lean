import Folio.Proofs.Outline.Tree

/-!
# Outlines of compiled trees

Of the standard stages only the one that gives ids changes the outline of a tree in which headings
and code are apart.  It may as well come first, because the two stages before it touch no heading.
-/

namespace Folio

/-! ## Stages that keep the outline -/

section

variable {stage : Stage} {stages : List Stage} {t u : Tree}

/-- Only giving ids touches ids. -/
theorem Stage.attribute?_id_of_effect (hb : stage.isBuiltIn) (hne : stage ≠ .headingIds)
    {e : Element} {head : ElementHead} (he : stage.Effect e head) :
    head.attribute? "id" = e.head.attribute? "id" := by
  cases stage with
  | preserveRawCode =>
      cases he
      rw [keepRaw]
      split
      · rfl
      · rfl
  | attachRawCode =>
      rw [eq_publish he, publish]
      split
      · cases e.head.data.rawText with
        | none => rfl
        | some raw => exact e.head.attribute?_setAttribute "raw" raw "id"
      · rfl
  | codeTitle => exact he.2 "id" (by decide)
  | highlight highlighter => exact he.2 "id" (by decide)
  | resolveComponents registry => exact congrArg (ElementHead.attribute? · "id") he
  | headingAutolinks link => exact congrArg (ElementHead.attribute? · "id") he
  | headingIds => exact (hne rfl).elim
  | custom name role run => cases hb

/-- What revisions that keep ids keep is kept by a run without giving ids.  `P` is what the tree
needs for that, and what revisions leave it. -/
theorem eq_of_run {α : Type} {P : Tree → Prop} {g : Tree → α}
    (hstep : ∀ (R : Element → ElementHead → Prop) {t u : Tree}, Revises R t u →
      (∀ e head, R e head → head.attribute? "id" = e.head.attribute? "id") → P t → P u ∧ g u = g t)
    (hb : ∀ stage ∈ stages, stage.isBuiltIn ∧ stage ≠ .headingIds) (ht : P t)
    (hu : applyStages stages t = .ok u) : g u = g t := by
  induction stages generalizing t with
  | nil =>
      cases hu
      rfl
  | cons stage stages ih =>
      rw [List.forall_mem_cons] at hb
      obtain ⟨v, hv, hu⟩ := applyStages_cons_eq_ok_iff.1 hu
      obtain ⟨hkept, heq⟩ := hstep stage.Effect (Stage.revises_apply hb.1.1 hv)
        (fun _ _ he => Stage.attribute?_id_of_effect hb.1.1 hb.1.2 he) ht
      rw [ih hb.2 hkept hu, heq]

end

/-! ## The standard stages -/

/-- The standard stages are those before highlighting, highlighting or nothing, and publishing. -/
theorem standardStages_eq_ok {registry : Registry} {options : CompileOptions}
    {highlighter : Theme → Highlighter} {stages : List Stage}
    (h : Pipeline.standardStages registry options highlighter = .ok stages) :
    ∃ colours, stages = plainStages registry options.autolink ++ (colours ++ [.attachRawCode]) ∧
      ∀ stage ∈ colours, ∃ theme, Theme.find options.theme = .ok theme ∧
        stage = .highlight (highlighter theme) := by
  unfold Pipeline.standardStages at h
  by_cases hon : options.highlight
  · rw [if_pos hon] at h
    obtain ⟨theme, htheme, h⟩ := bind_eq_ok_iff.1 h
    cases h
    exact ⟨[.highlight (highlighter theme)], rfl,
      fun _ hm => ⟨theme, htheme, List.mem_singleton.1 hm⟩⟩
  · rw [if_neg hon] at h
    cases h
    exact ⟨[], rfl, fun _ hm => by cases hm⟩

/-- Keeping texts and lifting titles may come after giving ids. -/
theorem headingIds_comm (t : Tree) :
    headingIds (liftTitles (preserveRaw t)) = liftTitles (preserveRaw (headingIds t)) := by
  have htitles : headingIds (liftTitles (preserveRaw t)) =
      liftTitles (headingIds (preserveRaw t)) :=
    mapHeads_liftTitles untitled_giveId (preserveRaw t)
  have htexts : preserveRaw (headingIds t) = headingIds (preserveRaw t) :=
    mapHeads_giveId_comm shallow_keepRaw onlyPre_keepRaw t
  rw [htitles, htexts]

/-- A run of the stages before highlighting is one that gives ids first. -/
theorem applyStages_plainStages {registry : Registry} {link : SelfLink} {t v : Tree}
    (h : applyStages (plainStages registry link) t = .ok v) :
    applyStages [.preserveRawCode, .codeTitle, .headingAutolinks link] (headingIds t) = .ok v := by
  have hquiet : ∀ stage ∈ plainStages registry link, stage.isBuiltIn ∧ stage.role ≠ .highlight := by
    intro stage hm
    have hmem : stage ∈ quietStages registry link := List.mem_append_left _ hm
    exact isBuiltIn_of_mem hmem
  have hv : v = linkHeadings link (headingIds (liftTitles (preserveRaw t))) :=
    eq_foldl_of_run hquiet h
  rw [hv, headingIds_comm]
  rfl

/-- What revisions that keep ids keep is, after the standard stages, what it was once headings had
ids. -/
theorem eq_of_standardStages {α : Type} {P : Tree → Prop} {g : Tree → α}
    (hstep : ∀ (R : Element → ElementHead → Prop) {t u : Tree}, Revises R t u →
      (∀ e head, R e head → head.attribute? "id" = e.head.attribute? "id") → P t → P u ∧ g u = g t)
    {registry : Registry} {options : CompileOptions} {highlighter : Theme → Highlighter}
    {stages : List Stage} (h : Pipeline.standardStages registry options highlighter = .ok stages)
    {tree result : Tree} (htree : P (headingIds tree))
    (hrun : applyStages stages tree = .ok result) :
    g result = g (headingIds tree) := by
  obtain ⟨colours, rfl, hcolours⟩ := standardStages_eq_ok h
  rw [applyStages_append] at hrun
  obtain ⟨v, hv, hrun⟩ := bind_eq_ok_iff.1 hrun
  have hids : applyStages ([.preserveRawCode, .codeTitle, .headingAutolinks options.autolink] ++
      (colours ++ [.attachRawCode])) (headingIds tree) = .ok result := by
    rw [applyStages_append, applyStages_plainStages hv]
    exact hrun
  refine eq_of_run hstep (fun stage hm => ?_) htree hids
  simp only [List.cons_append, List.nil_append, List.mem_cons, List.mem_append, List.not_mem_nil,
    or_false] at hm
  rcases hm with rfl | rfl | rfl | hm | rfl
  case inr.inr.inr.inl =>
    obtain ⟨theme, -, rfl⟩ := hcolours stage hm
    exact ⟨rfl, Stage.noConfusion⟩
  all_goals exact ⟨rfl, Stage.noConfusion⟩

/-- The standard stages give a tree the outline that it has once its headings have ids, whatever
link headings get and whether code is highlighted, if no heading holds code and no code holds
headings. -/
theorem treeOutline_of_standardStages {registry : Registry} {options : CompileOptions}
    {highlighter : Theme → Highlighter} {stages : List Stage}
    (h : Pipeline.standardStages registry options highlighter = .ok stages) {tree result : Tree}
    (hapart : Apart tree) (hrun : applyStages stages tree = .ok result) :
    treeOutline result = treeOutline (headingIds tree) := by
  refine eq_of_standardStages (P := Apart) ?_ h ((revises_headingIds tree).apart hapart) hrun
  exact fun R _ _ hrev hid ht => ⟨hrev.apart ht, hrev.treeOutline_eq hid ht⟩

/-- The standard stages succeed on a tree whose components are all known. -/
theorem exists_run_standardStages {registry : Registry} {options : CompileOptions}
    {highlighter : Theme → Highlighter} {stages : List Stage}
    (h : Pipeline.standardStages registry options highlighter = .ok stages)
    (htotal : ∀ theme, Theme.find options.theme = .ok theme → (highlighter theme).Total)
    {tree : Tree} (hknown : unresolvedIn? registry tree = none) :
    ∃ result, applyStages stages tree = .ok result := by
  obtain ⟨colours, rfl, hcolours⟩ := standardStages_eq_ok h
  have hstages : ∀ stage ∈ plainStages registry options.autolink ++ (colours ++ [.attachRawCode]),
      stage.isBuiltIn ∧ stage.Accepts tree := by
    intro stage hm
    simp only [plainStages, List.cons_append, List.nil_append, List.mem_cons, List.mem_append,
      List.not_mem_nil, or_false] at hm
    rcases hm with rfl | rfl | rfl | rfl | rfl | hm | rfl
    case inr.inr.inr.inr.inr.inl =>
      obtain ⟨theme, htheme, rfl⟩ := hcolours stage hm
      exact ⟨rfl, htotal theme htheme⟩
    case inl => exact ⟨rfl, hknown⟩
    all_goals exact ⟨rfl, trivial⟩
  have hready : RawReady (plainStages registry options.autolink ++ (colours ++ [.attachRawCode]))
      tree :=
    Or.inr (by simp [plainStages, keepsBeforeAttach_cons, Stage.role])
  exact hready.exists_run (fun stage hm => (hstages stage hm).1)
    fun stage hm => (hstages stage hm).2

end Folio
