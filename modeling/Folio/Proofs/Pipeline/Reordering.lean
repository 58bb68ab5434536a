import Folio.Proofs.Pipeline.Highlighting
import Folio.Proofs.Pipeline.Rendering
import Folio.Proofs.Stage.Commute
import Mathlib.Data.List.Pairwise
import Mathlib.Data.List.TakeWhile

/-!
# Stages in another order

Of the standard stages without highlighting, keeping texts has to come before publishing them, and
giving ids before linking headings.  All orders that respect this give the same result.

A run that gets past unknown components rewrites the tree, stage by stage, by functions that cannot
fail.  Two orders of the stages differ by swaps of neighbours that need not come in their order, and
the functions of those commute.
-/

namespace Folio

/-! ## Folds in another order -/

section

variable {α σ : Type} {f : σ → α → σ}

/-- An element that commutes with all before it may come first. -/
theorem foldl_middle {before after : List α} {a : α}
    (hcomm : ∀ b ∈ before, ∀ s, f (f s b) a = f (f s a) b) (s : σ) :
    (before ++ a :: after).foldl f s = (before ++ after).foldl f (f s a) := by
  induction before generalizing s with
  | nil => rfl
  | cons b before ih =>
      rw [List.forall_mem_cons] at hcomm
      rw [List.cons_append, List.foldl_cons, ih hcomm.2, hcomm.1, List.cons_append, List.foldl_cons]

/-- Two orders of a list that both respect `precedes` fold to the same value, if all elements
commute that need not come in their order. -/
theorem foldl_eq_of_perm {precedes : α → α → Prop} {l m : List α} (hperm : l.Perm m)
    (hl : l.Pairwise fun a b => ¬ precedes b a) (hm : m.Pairwise fun a b => ¬ precedes b a)
    (hcomm : ∀ a ∈ l, ∀ b ∈ l, ¬ precedes a b → ¬ precedes b a → ∀ s, f (f s a) b = f (f s b) a)
    (s : σ) : l.foldl f s = m.foldl f s := by
  induction l generalizing m s with
  | nil => rw [hperm.nil_eq]
  | cons a l ih =>
      -- The first element of `l` stands somewhere in `m`; it is moved to the front there.
      obtain ⟨before, after, rfl⟩ := List.append_of_mem (hperm.mem_iff.1 List.mem_cons_self)
      have hrest : l.Perm (before ++ after) :=
        (hperm.trans List.perm_middle).cons_inv
      rw [List.pairwise_cons] at hl
      rw [List.pairwise_append, List.pairwise_cons] at hm
      have hfront : ∀ b ∈ before, ∀ s, f (f s b) a = f (f s a) b := by
        intro b hb
        have hbl : b ∈ l := hrest.mem_iff.2 (List.mem_append_left after hb)
        have hab : ¬ precedes a b := hm.2.2 b hb a List.mem_cons_self
        have hba : ¬ precedes b a := hl.1 b hbl
        exact hcomm b (List.mem_cons_of_mem a hbl) a List.mem_cons_self hba hab
      have hordered : (before ++ after).Pairwise fun a b => ¬ precedes b a :=
        List.pairwise_append.2 ⟨hm.1, hm.2.1.2, fun b hb c hc =>
          hm.2.2 b hb c (List.mem_cons_of_mem a hc)⟩
      rw [List.foldl_cons, foldl_middle hfront]
      exact ih hrest hl.2 hordered (fun b hb c hc =>
        hcomm b (List.mem_cons_of_mem a hb) c (List.mem_cons_of_mem a hc)) (f s a)

/-- Of two elements of a list without duplicates only one comes before the other. -/
theorem not_sublist_swap {l : List α} (hl : l.Nodup) {a b : α} (h : [a, b].Sublist l) :
    ¬ [b, a].Sublist l := by
  induction l with
  | nil => cases h
  | cons c l ih =>
      rw [List.nodup_cons] at hl
      intro h'
      -- Unless both pairs are in `l`, the first element is in `l` once more.
      rcases List.sublist_cons_iff.1 h with hab | ⟨_, heq, hb⟩
      · rcases List.sublist_cons_iff.1 h' with hba | ⟨_, heq, -⟩
        · exact ih hl.2 hab hba
        · cases heq
          exact hl.1 (hab.subset (by simp))
      · cases heq
        rcases List.sublist_cons_iff.1 h' with hba | ⟨_, heq, ha⟩
        · exact hl.1 (hba.subset (by simp))
        · cases heq
          exact hl.1 (ha.subset (by simp))

end

/-! ## What stages do when they succeed -/

namespace Stage

/-- What a built-in stage makes of a tree if it does not fail; highlighting is left out. -/
def rewrite : Stage → Tree → Tree
  | preserveRawCode => preserveRaw
  | codeTitle => liftTitles
  | headingIds => Folio.headingIds
  | headingAutolinks link => linkHeadings link
  | attachRawCode => mapHeads publish
  | _ => id

theorem eq_rewrite_of_apply {stage : Stage} (hb : stage.isBuiltIn) (hr : stage.role ≠ .highlight)
    {t u : Tree} (h : stage.apply t = .ok u) : u = stage.rewrite t := by
  cases stage with
  | resolveComponents registry => exact (resolveComponents_eq_ok h).2
  | highlight highlighter => exact (hr rfl).elim
  | attachRawCode => exact eq_of_attachRaw h
  | custom name role run => cases hb
  | preserveRawCode =>
      cases h
      rfl
  | codeTitle =>
      cases h
      rfl
  | headingIds =>
      cases h
      rfl
  | headingAutolinks link =>
      cases h
      rfl

/-- No stage changes which components there are. -/
theorem unresolvedIn?_rewrite (registry : Registry) (stage : Stage) (t : Tree) :
    unresolvedIn? registry (stage.rewrite t) = unresolvedIn? registry t := by
  cases stage with
  | preserveRawCode => exact (sameShape_mapHeads tag_keepRaw t).unresolvedIn?_eq registry
  | codeTitle => exact (sameShape_liftTitles t).unresolvedIn?_eq registry
  | headingIds => exact (sameShape_mapHeads tag_giveId t).unresolvedIn?_eq registry
  | headingAutolinks link => exact unresolvedIn?_linkHeadings link registry t
  | attachRawCode =>
      exact (sameShape_mapHeads shallow_publish.keepsTags t).unresolvedIn?_eq registry
  | _ => rfl

/-- The first stage prepares what the second one uses. -/
inductive Prepares : Stage → Stage → Prop
  | raw : Prepares preserveRawCode attachRawCode
  | id (link : SelfLink) : Prepares headingIds (headingAutolinks link)

/-- Two stages give the same in either order. -/
def Independent (first second : Stage) : Prop :=
  ∀ t, second.rewrite (first.rewrite t) = first.rewrite (second.rewrite t)

end Stage

/-- The standard stages without highlighting. -/
def quietStages (registry : Registry) (link : SelfLink) : List Stage :=
  plainStages registry link ++ [.attachRawCode]

/-- Of the standard stages without highlighting, one prepares the other or they are independent. -/
theorem pairwise_quietStages (registry : Registry) (link : SelfLink) :
    (quietStages registry link).Pairwise fun a b => a.Prepares b ∨ a.Independent b := by
  have hresolve : ∀ stage, (Stage.resolveComponents registry).Independent stage := fun _ _ => rfl
  have hkeepTitle : Stage.preserveRawCode.Independent .codeTitle :=
    fun t => (mapHeads_liftTitles untitled_keepRaw t).symm
  have hkeepId : Stage.preserveRawCode.Independent .headingIds :=
    fun t => (mapHeads_giveId_comm shallow_keepRaw onlyPre_keepRaw t).symm
  have hkeepLink : Stage.preserveRawCode.Independent (.headingAutolinks link) :=
    linkHeadings_mapHeads shallow_keepRaw onlyPre_keepRaw link
  have htitleId : Stage.codeTitle.Independent .headingIds := mapHeads_liftTitles untitled_giveId
  have htitleLink : Stage.codeTitle.Independent (.headingAutolinks link) :=
    linkHeadings_liftTitles link
  have htitleAttach : Stage.codeTitle.Independent .attachRawCode :=
    mapHeads_liftTitles untitled_publish
  have hidAttach : Stage.headingIds.Independent .attachRawCode :=
    mapHeads_giveId_comm shallow_publish onlyPre_publish
  have hlinkAttach : (Stage.headingAutolinks link).Independent .attachRawCode :=
    fun t => (linkHeadings_mapHeads shallow_publish onlyPre_publish link t).symm
  have hraw := Stage.Prepares.raw
  have hid := Stage.Prepares.id link
  simp only [quietStages, plainStages, List.cons_append, List.nil_append, List.pairwise_cons,
    List.forall_mem_cons]
  simp [hresolve, hkeepTitle, hkeepId, hkeepLink, htitleId, htitleLink, htitleAttach, hidAttach,
    hlinkAttach, hraw, hid]

/-- Two of these stages that need not come in their order give the same in either order. -/
theorem independent_of_mem {registry : Registry} {link : SelfLink} {a b : Stage}
    (ha : a ∈ quietStages registry link) (hb : b ∈ quietStages registry link)
    (hab : ¬ a.Prepares b) (hba : ¬ b.Prepares a) : a.Independent b := by
  let R : Stage → Stage → Prop := fun a b => ¬ a.Prepares b → ¬ b.Prepares a → a.Independent b
  have hsymm : Std.Symm R := ⟨fun a b h hba hab t => (h hab hba t).symm⟩
  have hself : ∀ stage ∈ quietStages registry link, R stage stage := fun _ _ _ _ _ => rfl
  have hpairs : (quietStages registry link).Pairwise R :=
    (pairwise_quietStages registry link).imp fun h hab _ => h.resolve_left hab
  exact hpairs.forall_of_forall hself ha hb hab hba

/-! ## Runs -/

theorem isBuiltIn_of_mem {registry : Registry} {link : SelfLink} {stage : Stage}
    (h : stage ∈ quietStages registry link) : stage.isBuiltIn ∧ stage.role ≠ .highlight := by
  revert stage
  simp [quietStages, plainStages, Stage.isBuiltIn, Stage.role]

/-- A run that succeeds rewrites the tree stage by stage. -/
theorem eq_foldl_of_run {stages : List Stage}
    (hb : ∀ stage ∈ stages, stage.isBuiltIn ∧ stage.role ≠ .highlight) {t u : Tree}
    (h : applyStages stages t = .ok u) : u = stages.foldl (fun t stage => stage.rewrite t) t := by
  induction stages generalizing t with
  | nil =>
      cases h
      rfl
  | cons stage stages ih =>
      rw [List.forall_mem_cons] at hb
      obtain ⟨v, hv, h⟩ := applyStages_cons_eq_ok_iff.1 h
      rw [List.foldl_cons, ← Stage.eq_rewrite_of_apply hb.1.1 hb.1.2 hv]
      exact ih hb.2 h

/-- Only the look-up of components may refuse a tree. -/
theorem eq_resolveComponents_or_accepts {registry : Registry} {link : SelfLink} {stage : Stage}
    (h : stage ∈ quietStages registry link) :
    stage = .resolveComponents registry ∨ ∀ t, stage.Accepts t := by
  simp only [quietStages, plainStages, List.cons_append, List.nil_append, List.mem_cons,
    List.not_mem_nil, or_false] at h
  rcases h with rfl | rfl | rfl | rfl | rfl | rfl
  · exact Or.inl rfl
  all_goals exact Or.inr fun _ => trivial

theorem eq_attachRawCode_of_role {registry : Registry} {link : SelfLink} {stage : Stage}
    (h : stage ∈ quietStages registry link) (hrole : stage.role = .attachRaw) :
    stage = .attachRawCode := by
  simp only [quietStages, plainStages, List.cons_append, List.nil_append, List.mem_cons,
    List.not_mem_nil, or_false] at h
  rcases h with rfl | rfl | rfl | rfl | rfl | rfl
  case inr.inr.inr.inr.inr => rfl
  all_goals cases hrole

/-- A component that is not known makes a run fail, whichever stages come before its look-up. -/
theorem applyStages_eq_error {registry : Registry} {link : SelfLink} {stages : List Stage}
    (hs : ∀ stage ∈ stages, stage ∈ quietStages registry link)
    (hresolve : .resolveComponents registry ∈ stages) {t : Tree} (hready : RawReady stages t)
    {component : ComponentHead} (hfirst : unresolvedIn? registry t = some component) :
    applyStages stages t = .error (unresolved component) := by
  induction stages generalizing t with
  | nil => cases hresolve
  | cons stage stages ih =>
      rw [List.forall_mem_cons] at hs
      obtain ⟨hb, hr⟩ := isBuiltIn_of_mem hs.1
      rw [applyStages_cons_eq_error_iff]
      by_cases hstage : stage = .resolveComponents registry
      · rw [hstage]
        exact Or.inl (resolveComponents_eq_error_iff.2 ⟨component, hfirst, rfl⟩)
      · -- This stage succeeds, and the component is still the first one that is not known.
        have haccepts := (eq_resolveComponents_or_accepts hs.1).resolve_left hstage t
        obtain ⟨v, hv⟩ := hready.exists_apply hb haccepts
        have hkept : unresolvedIn? registry v = some component := by
          rw [Stage.eq_rewrite_of_apply hb hr hv, Stage.unresolvedIn?_rewrite, hfirst]
        have hlater := (List.mem_cons.1 hresolve).resolve_left (Ne.symm hstage)
        exact Or.inr ⟨v, hv, ih hs.2 hlater (hready.step hb hv) hkept⟩

/-! ## Orders -/

/-- The standard stages without highlighting, in an order in which texts are kept before they are
published and ids given before headings are linked. -/
structure Reordered (registry : Registry) (link : SelfLink) (stages : List Stage) : Prop where
  perm : stages.Perm (quietStages registry link)
  raw : [.preserveRawCode, .attachRawCode].Sublist stages
  id : [.headingIds, .headingAutolinks link].Sublist stages

namespace Reordered

variable {registry : Registry} {link : SelfLink} {stages : List Stage}

theorem nodup (h : Reordered registry link stages) : stages.Nodup := by
  rw [h.perm.nodup_iff]
  simp [quietStages, plainStages]

theorem mem (h : Reordered registry link stages) :
    ∀ stage ∈ stages, stage ∈ quietStages registry link :=
  fun _ hm => h.perm.mem_iff.1 hm

/-- No stage comes after one that it prepares. -/
theorem pairwise (h : Reordered registry link stages) :
    stages.Pairwise fun a b => ¬ b.Prepares a := by
  rw [List.pairwise_iff_forall_sublist]
  intro a b hab hprepares
  cases hprepares with
  | raw => exact not_sublist_swap h.nodup h.raw hab
  | id link' =>
      have hmem : Stage.headingAutolinks link' ∈ quietStages registry link :=
        h.mem _ (hab.subset (by simp))
      have hlink : link' = link := by simpa [quietStages, plainStages] using hmem
      rw [hlink] at hab
      exact not_sublist_swap h.nodup h.id hab

/-- Texts are kept before they are published. -/
theorem keepsBeforeAttach (h : Reordered registry link stages) : KeepsBeforeAttach stages := by
  intro stage hfront hrole
  have hstage : stage = .attachRawCode :=
    eq_attachRawCode_of_role (h.mem stage ((List.takeWhile_sublist _).subset hfront)) hrole
  have hpairs := h.pairwise
  have hkeep : Stage.preserveRawCode ∈ stages := h.raw.subset (by simp)
  rw [← List.takeWhile_append_dropWhile (p := (·.role != .preserveRaw)) (l := stages)]
    at hpairs hkeep
  rw [List.pairwise_append] at hpairs
  -- The stage that keeps texts is not before itself, so it comes after the one that publishes them.
  have hrest := (List.mem_append.1 hkeep).resolve_left fun hm => by
    have hne := List.mem_takeWhile_imp hm
    cases hne
  refine hpairs.2.2 stage hfront _ hrest ?_
  rw [hstage]
  exact Stage.Prepares.raw

end Reordered

/-- Looking components up, keeping texts, lifting titles, giving ids, linking headings and
publishing texts may be done in any order in which texts are kept before they are published and ids
given before headings are linked: on every tree two such orders succeed with the same tree or fail
with the same error. -/
theorem applyStages_eq_of_reordered {registry : Registry} {link : SelfLink}
    {first second : List Stage} (hfirst : Reordered registry link first)
    (hsecond : Reordered registry link second) (tree : Tree) :
    applyStages first tree = applyStages second tree := by
  have hresolve {stages : List Stage} (h : Reordered registry link stages) :
      .resolveComponents registry ∈ stages := by
    rw [h.perm.mem_iff]
    simp [quietStages, plainStages]
  cases hcomponent : unresolvedIn? registry tree with
  | some component =>
      have herror {stages : List Stage} (h : Reordered registry link stages) :
          applyStages stages tree = .error (unresolved component) :=
        applyStages_eq_error h.mem (hresolve h) (Or.inr h.keepsBeforeAttach) hcomponent
      rw [herror hfirst, herror hsecond]
  | none =>
      have hok {stages : List Stage} (h : Reordered registry link stages) :
          applyStages stages tree =
            .ok (stages.foldl (fun t stage => stage.rewrite t) tree) := by
        have hready : RawReady stages tree := Or.inr h.keepsBeforeAttach
        have haccepts : ∀ stage ∈ stages, stage.Accepts tree := by
          intro stage hm
          rcases eq_resolveComponents_or_accepts (h.mem stage hm) with rfl | haccepts
          · exact hcomponent
          · exact haccepts tree
        obtain ⟨u, hu⟩ := hready.exists_run (fun stage hm => (isBuiltIn_of_mem (h.mem stage hm)).1)
          haccepts
        rw [hu, eq_foldl_of_run (fun stage hm => isBuiltIn_of_mem (h.mem stage hm)) hu]
      have hperm := hfirst.perm.trans hsecond.perm.symm
      have hfold := foldl_eq_of_perm hperm hfirst.pairwise hsecond.pairwise
        (f := fun t stage => stage.rewrite t) (fun a ha b hb hab hba t =>
          independent_of_mem (hfirst.mem a ha) (hfirst.mem b hb) hab hba t) tree
      rw [hok hfirst, hok hsecond, hfold]

/-- A heading that holds a block with a title, and a block whose code holds a heading. -/
def entangled : Tree :=
  [.element (.ofTag "h2") [.text "Use ",
      .element { tag := "pre", attributes := Dict.ofList [("data-meta", "title=\"a.js\" x")] }
        [.element (.ofTag "code") [.text "b"]]],
    .element { tag := "pre", data := { fenceSource := some "c\r\n" } }
      [.element ((ElementHead.ofTag "code").setAttribute "class" "language-js:c.js")
        [.element (.ofTag "h3") [.text "c"]]]]

/-- Headings are linked first, and titles lifted between the keeping and the publishing of texts. -/
def linkedFirst : List Stage :=
  [.headingIds, .headingAutolinks .wrap, .resolveComponents {}, .preserveRawCode, .codeTitle,
    .attachRawCode]

theorem applyStages_entangled :
    Reordered {} .wrap (quietStages {} .wrap) ∧ Reordered {} .wrap linkedFirst ∧
      applyStages (quietStages {} .wrap) entangled = applyStages linkedFirst entangled := by
  have hstandard : Reordered {} .wrap (quietStages {} .wrap) := by
    refine ⟨List.Perm.refl _, ?_, ?_⟩
    · exact .cons _ (.cons_cons _ (List.singleton_sublist.2 (by simp)))
    · exact .cons _ (.cons _ (.cons _ (.cons_cons _ (List.singleton_sublist.2 (by simp)))))
  have hmoved : Reordered {} .wrap linkedFirst := by
    refine ⟨?_, ?_, ?_⟩
    · let links : List Stage := [.headingIds, .headingAutolinks .wrap]
      let kept : List Stage := [.resolveComponents {}, .preserveRawCode, .codeTitle]
      have hswap : (links ++ kept).Perm (kept ++ links) := List.perm_append_comm
      exact hswap.append_right [.attachRawCode]
    · exact .cons _ (.cons _ (.cons _ (.cons_cons _ (List.singleton_sublist.2 (by simp)))))
    · exact .cons_cons _ (List.singleton_sublist.2 (by simp))
  exact ⟨hstandard, hmoved, applyStages_eq_of_reordered hstandard hmoved entangled⟩

end Folio
