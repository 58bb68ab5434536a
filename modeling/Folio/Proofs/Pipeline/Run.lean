import Folio.Proofs.Pipeline.Order
import Folio.Proofs.Stage.Highlight

/-!
# Runs of stages

One step lemma for all built-in stages, and from it what a run of them keeps: a stage that succeeds
revises its tree, and a stage that accepts a tree accepts its revisions.
-/

namespace Folio

/-! ## Steps -/

namespace Stage

/-- Whether a stage is one of the library's own. -/
def isBuiltIn : Stage → Bool
  | custom _ _ _ => false
  | _ => true

/-- What a built-in stage does to the head of an element. -/
def Effect : Stage → Element → ElementHead → Prop
  | resolveComponents _, e, head => head = e.head
  | preserveRawCode, e, head => head = keepRaw e.head e.children
  | codeTitle, e, head => Keeps titleNames e head
  | headingIds, e, head => Keeps ["id"] e head
  | headingAutolinks _, e, head => head = e.head
  | highlight _, e, head => Keeps colourNames e head
  | attachRawCode, e, head => publishRaw e.head e.children = .ok head
  | custom _ _ _, _, _ => True

/-- What a built-in stage asks of a tree and of the code it calls: a registry knows the components
of the tree, and a highlighter cuts every line into tokens. -/
def Accepts : Stage → Tree → Prop
  | resolveComponents registry, tree => unresolvedIn? registry tree = none
  | highlight highlighter, _ => highlighter.Total
  | _, _ => True

/-- A built-in stage that succeeds revises its tree. -/
theorem revises_apply {stage : Stage} (hb : stage.isBuiltIn) {t u : Tree}
    (h : stage.apply t = .ok u) : Revises stage.Effect t u := by
  cases stage with
  | resolveComponents registry =>
      simp only [apply, Folio.resolveComponents] at h
      split at h
      · cases h
      · cases h
        exact Revises.same (R := (resolveComponents registry).Effect) (fun _ => rfl) t
  | preserveRawCode =>
      cases h
      exact revises_preserveRaw t
  | codeTitle =>
      cases h
      exact revises_liftTitles t
  | headingIds =>
      cases h
      exact revises_headingIds t
  | headingAutolinks link =>
      cases h
      exact revises_linkHeadings link t
  | highlight highlighter => exact revises_highlightTree h
  | attachRawCode => exact revises_attachRaw h
  | custom name role run => cases hb

/-- A stage that accepts a tree accepts its revisions. -/
theorem Accepts.revises {R : Element → ElementHead → Prop} {stage : Stage} {t u : Tree}
    (ha : stage.Accepts t) (h : Revises R t u) : stage.Accepts u := by
  cases stage with
  | resolveComponents registry => exact h.unresolvedIn?_eq_none ha
  | highlight highlighter => exact ha
  | _ => trivial

end Stage

/-! ## Runs -/

theorem applyStages_cons_eq_ok_iff {stage : Stage} {stages : List Stage} {t u : Tree} :
    applyStages (stage :: stages) t = .ok u ↔
      ∃ v, stage.apply t = .ok v ∧ applyStages stages v = .ok u :=
  bind_eq_ok_iff

theorem applyStages_cons_eq_error_iff {stage : Stage} {stages : List Stage} {t : Tree}
    {error : CompileError} : applyStages (stage :: stages) t = .error error ↔
      stage.apply t = .error error ∨
        ∃ v, stage.apply t = .ok v ∧ applyStages stages v = .error error :=
  bind_eq_error_iff

/-- A run in two parts. -/
theorem applyStages_append (first second : List Stage) (t : Tree) :
    applyStages (first ++ second) t = applyStages first t >>= applyStages second := by
  induction first generalizing t with
  | nil => rfl
  | cons stage first ih =>
      show (stage.apply t >>= applyStages (first ++ second)) =
        (stage.apply t >>= applyStages first) >>= applyStages second
      cases stage.apply t with
      | error e => rfl
      | ok v => exact ih v

/-- What revisions keep of a tree is kept by a run. -/
theorem keeps_of_run {P : Tree → Prop}
    (hP : ∀ (R : Element → ElementHead → Prop) {t u : Tree}, Revises R t u → P t → P u)
    {stages : List Stage} (hb : ∀ stage ∈ stages, stage.isBuiltIn) {t u : Tree} (ht : P t)
    (hu : applyStages stages t = .ok u) : P u := by
  induction stages generalizing t with
  | nil =>
      cases hu
      exact ht
  | cons stage stages ih =>
      rw [List.forall_mem_cons] at hb
      obtain ⟨v, hv, hu⟩ := applyStages_cons_eq_ok_iff.1 hu
      exact ih hb.2 (hP stage.Effect (Stage.revises_apply hb.1 hv) ht) hu

/-- A run relates trees by a relation that can be chained and that each of its stages does. -/
theorem related_of_run {r : Tree → Tree → Prop} (hrefl : ∀ t, r t t)
    (htrans : ∀ {t v u}, r t v → r v u → r t u) {stages : List Stage}
    (hstep : ∀ stage ∈ stages, ∀ t u, stage.apply t = .ok u → r t u) {t u : Tree}
    (hu : applyStages stages t = .ok u) : r t u := by
  induction stages generalizing t with
  | nil =>
      cases hu
      exact hrefl _
  | cons stage stages ih =>
      rw [List.forall_mem_cons] at hstep
      obtain ⟨v, hv, hu⟩ := applyStages_cons_eq_ok_iff.1 hu
      exact htrans (hstep.1 _ v hv) (ih hstep.2 hu)

/-- A run on a flat tree gives a flat tree. -/
theorem flatBlocks_of_run {stages : List Stage} (hb : ∀ stage ∈ stages, stage.isBuiltIn)
    {t u : Tree} (hflat : FlatBlocks t) (hu : applyStages stages t = .ok u) : FlatBlocks u :=
  keeps_of_run (fun _ _ _ hrev => hrev.flatBlocks) hb hflat hu

/-- A run on a tree whose components are all known gives such a tree. -/
theorem unresolvedIn?_of_run {registry : Registry} {stages : List Stage}
    (hb : ∀ stage ∈ stages, stage.isBuiltIn) {t u : Tree}
    (hknown : unresolvedIn? registry t = none) (hu : applyStages stages t = .ok u) :
    unresolvedIn? registry u = none :=
  keeps_of_run (P := fun t => unresolvedIn? registry t = none)
    (fun _ _ _ hrev => hrev.unresolvedIn?_eq_none) hb hknown hu

end Folio
