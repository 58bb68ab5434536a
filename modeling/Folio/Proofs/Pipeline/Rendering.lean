import Folio.Proofs.Html.Rendering
import Folio.Proofs.Pipeline.Run

/-!
# Rendering what was compiled

The standard stages look components up before anything else, and no stage adds one, so what they
compile with a registry is rendered with it.
-/

namespace Folio

theorem resolveComponents_eq_ok {registry : Registry} {t u : Tree}
    (h : resolveComponents registry t = .ok u) : unresolvedIn? registry t = none ∧ u = t := by
  unfold resolveComponents at h
  split at h
  · cases h
  · rename_i hknown
    cases h
    exact ⟨hknown, rfl⟩

theorem resolveComponents_eq_error_iff {registry : Registry} {t : Tree} {error : CompileError} :
    resolveComponents registry t = .error error ↔
      ∃ component, unresolvedIn? registry t = some component ∧ error = unresolved component := by
  unfold resolveComponents
  constructor
  · intro h
    split at h
    · rename_i component hfirst
      cases h
      exact ⟨component, hfirst, rfl⟩
    · cases h
  · rintro ⟨component, hfirst, rfl⟩
    rw [hfirst]

theorem toHtml_eq_error_iff {registry : Registry} {t : Tree} {error : CompileError} :
    toHtml registry t = .error error ↔
      ∃ component, unresolvedIn? registry (shown t) = some component ∧
        error = unresolved component := by
  constructor
  · intro h
    rcases failsFor_toHtml registry t with ⟨-, html, hok⟩ | ⟨component, hfirst, herror⟩
    · rw [h] at hok
      cases hok
    · rw [h] at herror
      cases herror
      exact ⟨component, hfirst, rfl⟩
  · rintro ⟨component, hfirst, rfl⟩
    rcases failsFor_toHtml registry t with ⟨hnone, -⟩ | ⟨other, hother, herror⟩
    · rw [hfirst] at hnone
      cases hnone
    · rw [hfirst] at hother
      cases hother
      exact herror

/-- The standard stages look components up first; all of them are built in. -/
theorem exists_standardStages {registry : Registry} {options : CompileOptions}
    {highlighter : Theme → Highlighter} {stages : List Stage}
    (h : Pipeline.standardStages registry options highlighter = .ok stages) :
    ∃ rest, stages = .resolveComponents registry :: rest ∧ ∀ stage ∈ rest, stage.isBuiltIn := by
  unfold Pipeline.standardStages at h
  by_cases hon : options.highlight
  · rw [if_pos hon] at h
    obtain ⟨theme, -, h⟩ := bind_eq_ok_iff.1 h
    cases h
    exact ⟨_, rfl, by simp [Stage.isBuiltIn]⟩
  · rw [if_neg hon] at h
    cases h
    exact ⟨_, rfl, by simp [Stage.isBuiltIn]⟩

/-- What the standard stages make of any tree is rendered with the registry they looked components
up in; and on a tree with nothing below its elements without content, looking components up and
rendering fail alike, for the same component and at the same place. -/
theorem toHtml_of_standardStages (registry : Registry) (options : CompileOptions)
    (highlighter : Theme → Highlighter) (tree : Tree) :
    (∀ stages result, Pipeline.standardStages registry options highlighter = .ok stages →
      applyStages stages tree = .ok result → ∃ html, toHtml registry result = .ok html) ∧
    (ChildlessVoids tree → ∀ error,
      (Stage.resolveComponents registry).apply tree = .error error ↔
        toHtml registry tree = .error error) ∧
    ∀ error, toHtml registry tree = .error error →
      ∃ name location, error = .component name location := by
  refine ⟨fun stages result hstages hresult => ?_, fun hvoids error => ?_, fun error herror => ?_⟩
  · obtain ⟨rest, rfl, hb⟩ := exists_standardStages hstages
    obtain ⟨v, hv, hrun⟩ := applyStages_cons_eq_ok_iff.1 hresult
    obtain ⟨hknown, rfl⟩ := resolveComponents_eq_ok hv
    exact exists_toHtml (unresolvedIn?_of_run hb hknown hrun)
  · rw [toHtml_eq_error_iff, shown_eq_self hvoids]
    exact resolveComponents_eq_error_iff
  · obtain ⟨component, -, rfl⟩ := toHtml_eq_error_iff.1 herror
    exact ⟨_, _, rfl⟩

/-- A registry that knows tabs alone. -/
def tabsOnly : Registry := Registry.ofBindings [Binding.ofName "Tabs"]

/-- Tabs with a heading, a line break and code. -/
def tabbedCode : Tree :=
  [.component { name := "Tabs" }
    [.element (.ofTag "h2") [.text "Use"],
      .element (.ofTag "p") [.text "a", .element (.ofTag "br") []],
      .element (.ofTag "pre") [.element (.ofTag "code") [.text "b\n"]]]]

/-- A chart in a list item behind tabs. -/
def listedChart : Tree :=
  [.component { name := "Tabs" } [.element (.ofTag "hr") []],
    .element (.ofTag "ul") [.element (.ofTag "li")
      [.component { name := "Chart", position := some { line := 3, column := 5 } } []]]]

theorem toHtml_of_tabbedCode :
    (∃ stages result, Pipeline.standardStages tabsOnly {} Highlighter.plain = .ok stages ∧
      applyStages stages tabbedCode = .ok result ∧ ∃ html, toHtml tabsOnly result = .ok html) ∧
    ChildlessVoids listedChart ∧
    (∀ error, (Stage.resolveComponents tabsOnly).apply listedChart = .error error ↔
      toHtml tabsOnly listedChart = .error error) ∧
    toHtml tabsOnly listedChart = .error (.component "Chart" { line := 3, column := 5 }) ∧
    ∃ name location, CompileError.component "Chart" { line := 3, column := 5 } =
      .component name location := by
  obtain ⟨stages, result, hstages, hresult⟩ : ∃ stages result,
      Pipeline.standardStages tabsOnly {} Highlighter.plain = .ok stages ∧
      applyStages stages tabbedCode = .ok result := ⟨_, _, rfl, rfl⟩
  have hvoids : ChildlessVoids listedChart := by
    simp [ChildlessVoids, listedChart, ElementHead.ofTag, voidTags]
  have herror : toHtml tabsOnly listedChart =
      .error (.component "Chart" { line := 3, column := 5 }) := rfl
  obtain ⟨hrendered, -, -⟩ := toHtml_of_standardStages tabsOnly {} Highlighter.plain tabbedCode
  obtain ⟨-, halike, hkind⟩ := toHtml_of_standardStages tabsOnly {} Highlighter.plain listedChart
  exact ⟨⟨stages, result, hstages, hresult, hrendered stages result hstages hresult⟩, hvoids,
    halike hvoids, herror, hkind _ herror⟩

end Folio
