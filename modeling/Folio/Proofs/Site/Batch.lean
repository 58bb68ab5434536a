import Folio.Proofs.Outcome
import Mathlib.Data.Multiset.AddSub
import Mathlib.Data.Multiset.MapFold
import Mathlib.Logic.Relation

/-!
# Batches

A batch is a number of items that workers take one by one, in any order and at different speeds.
The first error that a worker meets is kept, and with it the batch fails; work that nobody has
started by then may be left.  Otherwise the batch ends with all results, in any order.

What is true of one step is shown for each of the three kinds of steps; from that follows what is
true of every run, whatever the order in which the workers come to an end.
-/

namespace Folio.Site.Batch

variable {ι α ε : Type}

/-- A batch in progress. -/
structure State (ι α ε : Type) where
  /-- The items that nobody has taken. -/
  waiting : Multiset ι
  /-- The items that are being worked on. -/
  running : Multiset ι := 0
  results : Multiset α := 0
  /-- The first error. -/
  failure : Option ε := none

/-- The batch before anything has been done. -/
def State.initial (items : List ι) : State ι α ε where
  waiting := items

/-- What one of a number of workers may do: take an item, or come to an end with its item. -/
inductive Step (workers : Nat) (work : ι → Except ε α) : State ι α ε → State ι α ε → Prop
  | take {item : ι} {waiting running : Multiset ι} {results : Multiset α} {failure : Option ε} :
      running.card < workers →
      Step workers work ⟨item ::ₘ waiting, running, results, failure⟩
        ⟨waiting, item ::ₘ running, results, failure⟩
  | finish {item : ι} {result : α} {waiting running : Multiset ι} {results : Multiset α}
      {failure : Option ε} : work item = .ok result →
      Step workers work ⟨waiting, item ::ₘ running, results, failure⟩
        ⟨waiting, running, result ::ₘ results, failure⟩
  | fail {item : ι} {error : ε} {waiting running : Multiset ι} {results : Multiset α}
      {failure : Option ε} : work item = .error error →
      Step workers work ⟨waiting, item ::ₘ running, results, failure⟩
        ⟨waiting, running, results, failure.or (some error)⟩

/-- The outcomes of a batch on which nobody works any more. -/
inductive Ends : State ι α ε → Except ε (List α) → Prop
  | ok {results : List α} : Ends ⟨0, 0, results, none⟩ (.ok results)
  | error {waiting : Multiset ι} {results : Multiset α} {error : ε} :
      Ends ⟨waiting, 0, results, some error⟩ (.error error)

/-- A run of steps. -/
def Run (workers : Nat) (work : ι → Except ε α) : State ι α ε → State ι α ε → Prop :=
  Relation.ReflTransGen (Step workers work)

/-- An outcome that work on some items may have. -/
def Gives (workers : Nat) (work : ι → Except ε α) (items : List ι) (outcome : Except ε (List α)) :
    Prop :=
  ∃ s, Run workers work (.initial items) s ∧ Ends s outcome

variable {workers : Nat} {work : ι → Except ε α} {items : Multiset ι} {s t : State ι α ε}

/-! ## What is kept -/

/-- What is true of a batch on its way: the items at hand are some of all items; as long as nothing
failed, the others have their results; and an error is that of an item. -/
structure Sound (work : ι → Except ε α) (items : Multiset ι) (s : State ι α ε) : Prop where
  at_hand : s.waiting + s.running ≤ items
  settled : s.failure = none → ∃ finished, items = s.waiting + s.running + finished ∧
    Multiset.Rel (fun item result => work item = .ok result) finished s.results
  failed : ∀ error ∈ s.failure, ∃ item ∈ items, work item = .error error

theorem Sound.initial (items : List ι) : Sound work ↑items (.initial items : State ι α ε) where
  at_hand := by simp [State.initial]
  settled _ := ⟨0, by simp [State.initial], .zero⟩
  failed _ h := by cases h

/-- An item that someone has finished with is no longer at hand. -/
theorem le_add_cons (waiting running : Multiset ι) (item : ι) :
    waiting + running ≤ waiting + item ::ₘ running := by
  rw [Multiset.add_cons]
  exact Multiset.le_cons_self _ item

/-- A step keeps it. -/
theorem Sound.step (h : Sound work items s) (hstep : Step workers work s t) :
    Sound work items t := by
  obtain ⟨hhand, hsettled, hfailed⟩ := h
  cases hstep with
  | @take item waiting running results failure _ =>
      -- The item changes hands, all else stays.
      have hmoved : waiting + item ::ₘ running = item ::ₘ waiting + running := by
        rw [Multiset.add_cons, Multiset.cons_add]
      exact ⟨hmoved ▸ hhand, hmoved ▸ hsettled, hfailed⟩
  | @finish item result waiting running results failure hwork =>
      refine ⟨(le_add_cons waiting running item).trans hhand, fun hnone => ?_, hfailed⟩
      obtain ⟨finished, hitems, hresults⟩ := hsettled hnone
      refine ⟨item ::ₘ finished, ?_, hresults.cons hwork⟩
      rw [hitems, Multiset.add_cons, Multiset.cons_add, Multiset.add_cons]
  | @fail item error waiting running results failure hwork =>
      have hitem : item ∈ items :=
        Multiset.mem_of_le hhand (Multiset.mem_add.2 (Or.inr (Multiset.mem_cons_self item running)))
      refine ⟨(le_add_cons waiting running item).trans hhand, fun hnone => ?_,
        fun other hother => ?_⟩
      · cases failure <;> cases hnone
      · -- Either it is the error of this item, or one was kept before.
        cases failure with
        | none =>
            cases hother
            exact ⟨item, hitem, hwork⟩
        | some kept => exact hfailed other hother

theorem Sound.run (h : Sound work items s) (hrun : Run workers work s t) : Sound work items t := by
  induction hrun with
  | refl => exact h
  | tail _ hstep ih => exact ih.step hstep

/-! ## Outcomes -/

/-- A batch that succeeds has one result for each item. -/
theorem rel_of_gives_ok {items : List ι} {results : List α}
    (h : Gives workers work items (.ok results)) :
    Multiset.Rel (fun item result => work item = .ok result) ↑items ↑results := by
  obtain ⟨s, hrun, hends⟩ := h
  have hsound := (Sound.initial items).run hrun
  cases hends with
  | ok =>
      obtain ⟨finished, hitems, hresults⟩ := hsound.settled rfl
      have hall : (↑items : Multiset ι) = finished := by simpa using hitems
      rwa [hall]

/-- If a result carries a label of its item, a batch that succeeds has the labels of all items, each
one as often as it occurs among them. -/
theorem perm_of_gives_ok {κ : Type} (label : ι → κ) {key : α → κ} {items : List ι}
    {results : List α} (hlabel : ∀ item result, work item = .ok result → key result = label item)
    (h : Gives workers work items (.ok results)) : (results.map key).Perm (items.map label) := by
  have hlabels : ∀ {finished : Multiset ι} {done : Multiset α},
      Multiset.Rel (fun item result => work item = .ok result) finished done →
        done.map key = finished.map label := by
    intro finished done hrel
    induction hrel with
    | zero => rfl
    | cons hwork _ ih => rw [Multiset.map_cons, Multiset.map_cons, hlabel _ _ hwork, ih]
  exact Multiset.coe_eq_coe.1 (hlabels (rel_of_gives_ok h))

/-- Each result of a batch that succeeds is that of an item. -/
theorem exists_item_of_gives_ok {items : List ι} {results : List α} {result : α}
    (h : Gives workers work items (.ok results)) (hm : result ∈ results) :
    ∃ item ∈ items, work item = .ok result :=
  Multiset.exists_mem_of_rel_of_mem (Multiset.rel_flip.2 (rel_of_gives_ok h)) hm

/-- A batch that fails does so with the error of one of its items. -/
theorem exists_of_gives_error {items : List ι} {error : ε}
    (h : Gives workers work items (.error error)) : ∃ item ∈ items, work item = .error error := by
  obtain ⟨s, hrun, hends⟩ := h
  have hsound := (Sound.initial items).run hrun
  cases hends with
  | error => exact hsound.failed error rfl

/-! ## Ends -/

/-- The steps that are left: two for an item that waits, one for an item that is worked on. -/
def State.size (s : State ι α ε) : Nat :=
  2 * s.waiting.card + s.running.card

theorem Step.size_lt (h : Step workers work s t) : t.size < s.size := by
  cases h with
  | take _ =>
      simp only [State.size, Multiset.card_cons]
      omega
  | finish _ =>
      simp only [State.size, Multiset.card_cons]
      omega
  | fail _ =>
      simp only [State.size, Multiset.card_cons]
      omega

/-- If there are workers, a batch goes on until it has come to its end. -/
theorem exists_step_or_ends (hworkers : 0 < workers) (work : ι → Except ε α) (s : State ι α ε) :
    (∃ t, Step workers work s t) ∨ ∃ outcome, Ends s outcome := by
  obtain ⟨waiting, running, results, failure⟩ := s
  induction running using Multiset.induction_on with
  | cons item running _ =>
      cases hwork : work item with
      | ok result => exact Or.inl ⟨_, .finish hwork⟩
      | error error => exact Or.inl ⟨_, .fail hwork⟩
  | empty =>
      induction waiting using Multiset.induction_on with
      | cons item waiting _ => exact Or.inl ⟨_, .take (by simpa using hworkers)⟩
      | empty =>
          cases failure with
          | none =>
              obtain ⟨list, rfl⟩ := Quot.exists_rep results
              exact Or.inr ⟨_, .ok⟩
          | some error => exact Or.inr ⟨_, .error⟩

/-- However far a batch has come, it can be brought to an end, and since every step leaves less to
do, no run goes on forever. -/
theorem exists_run_ends (hworkers : 0 < workers) (work : ι → Except ε α) (s : State ι α ε) :
    ∃ t outcome, Run workers work s t ∧ Ends t outcome := by
  induction hsize : s.size using Nat.strong_induction_on generalizing s with
  | h size ih =>
      rcases exists_step_or_ends hworkers work s with ⟨t, hstep⟩ | ⟨outcome, hends⟩
      · obtain ⟨u, outcome, hrun, hends⟩ := ih t.size (hsize ▸ hstep.size_lt) t rfl
        exact ⟨u, outcome, hrun.head hstep, hends⟩
      · exact ⟨s, outcome, .refl, hends⟩

theorem exists_gives (hworkers : 0 < workers) (work : ι → Except ε α) (items : List ι) :
    ∃ outcome, Gives workers work items outcome := by
  obtain ⟨t, outcome, hrun, hends⟩ := exists_run_ends hworkers work (.initial items)
  exact ⟨outcome, t, hrun, hends⟩

/-- Working on the items in their order is one way to do it. -/
theorem gives_mapM (hworkers : 0 < workers) (work : ι → Except ε α) (items : List ι) :
    Gives workers work items (items.mapM work) := by
  have hfrom : ∀ done : List α, ∃ t, Run workers work ⟨↑items, 0, ↑done, none⟩ t ∧
      Ends t ((items.mapM work).map (done ++ ·)) := by
    induction items with
    | nil =>
        intro done
        refine ⟨_, .refl, ?_⟩
        show Ends ⟨0, 0, ↑done, none⟩ (.ok (done ++ []))
        rw [List.append_nil]
        exact .ok
    | cons item items ih =>
        intro done
        have hfree : (0 : Multiset ι).card < workers := by rwa [Multiset.card_zero]
        have htake : Step workers work ⟨item ::ₘ ↑items, 0, ↑done, none⟩
            ⟨↑items, item ::ₘ 0, ↑done, none⟩ := .take hfree
        rw [List.mapM_cons, ← Multiset.cons_coe]
        cases hwork : work item with
        | error error => exact ⟨_, .tail (.single htake) (.fail hwork), .error⟩
        | ok result =>
            obtain ⟨t, hrun, hends⟩ := ih (done ++ [result])
            have hdone : (↑(done ++ [result]) : Multiset α) = result ::ₘ ↑done :=
              Multiset.coe_eq_coe.2 (List.perm_append_singleton result done)
            rw [hdone] at hrun
            refine ⟨t, (hrun.head (.finish hwork)).head htake, ?_⟩
            cases hrest : items.mapM work with
            | error error =>
                rw [hrest] at hends
                exact hends
            | ok rest =>
                rw [hrest] at hends
                show Ends t (.ok (done ++ result :: rest))
                rw [List.append_cons]
                exact hends
  obtain ⟨t, hrun, hends⟩ := hfrom []
  refine ⟨t, hrun, ?_⟩
  cases hall : items.mapM work with
  | error error =>
      rw [hall] at hends
      exact hends
  | ok results =>
      rw [hall] at hends
      exact hends

end Folio.Site.Batch
