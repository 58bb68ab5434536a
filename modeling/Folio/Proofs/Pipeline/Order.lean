import Folio.Pipeline
import Mathlib.Data.List.Basic

/-!
# Accepted orders of stages

What the check of positions says about the order of stages.
-/

namespace Folio

/-- Some stage of the list has the role. -/
def HasRole (role : Role) (stages : List Stage) : Prop :=
  ∃ stage ∈ stages, stage.role = role

/-- Of the stages before the first one that keeps the text of code, none publishes it. -/
def KeepsBeforeAttach (stages : List Stage) : Prop :=
  ∀ stage ∈ stages.takeWhile (·.role != .preserveRaw), stage.role ≠ .attachRaw

theorem keepsBeforeAttach_cons {stage : Stage} {stages : List Stage} :
    KeepsBeforeAttach (stage :: stages) ↔
      stage.role = .preserveRaw ∨ stage.role ≠ .attachRaw ∧ KeepsBeforeAttach stages := by
  unfold KeepsBeforeAttach
  by_cases h : stage.role = .preserveRaw
  · simp [h]
  · rw [List.takeWhile_cons_of_pos (by simpa using h), List.forall_mem_cons]
    simp [h]

/-! ## First stages with a role -/

theorem firstWith?_cons_self {role : Role} {stage : Stage} (h : stage.role = role)
    (stages : List Stage) : firstWith? role (stage :: stages) = some 0 := by
  simp [firstWith?, List.findIdx?_cons, h]

theorem firstWith?_cons_ne {role : Role} {stage : Stage} (h : stage.role ≠ role)
    (stages : List Stage) :
    firstWith? role (stage :: stages) = (firstWith? role stages).map (· + 1) := by
  simp [firstWith?, List.findIdx?_cons, h]

/-! ## Publishing after keeping -/

/-- No fault is found with the first stage that publishes text exactly if it follows one that keeps
text. -/
theorem attachFault?_eq_none_iff (stages : List Stage) :
    attachFault? stages = none ↔ KeepsBeforeAttach stages := by
  induction stages with
  | nil => simp [KeepsBeforeAttach, attachFault?, firstWith?]
  | cons stage stages ih =>
      rw [keepsBeforeAttach_cons]
      by_cases hkeep : stage.role = .preserveRaw
      · -- The first stage keeps the text, so nothing is published before it.
        have hne : stage.role ≠ .attachRaw := by
          rw [hkeep]
          decide
        have hfault : attachFault? (stage :: stages) = none := by
          unfold attachFault?
          rw [firstWith?_cons_self hkeep, firstWith?_cons_ne hne]
          cases firstWith? .attachRaw stages with
          | none => rfl
          | some i => simp
        exact ⟨fun _ => Or.inl hkeep, fun _ => hfault⟩
      · by_cases hattach : stage.role = .attachRaw
        · have hfault : attachFault? (stage :: stages) ≠ none := by
            unfold attachFault?
            rw [firstWith?_cons_self hattach, firstWith?_cons_ne hkeep]
            cases firstWith? .preserveRaw stages with
            | none => simp
            | some i => simp
          simp [hfault, hattach]
        · have hfault : attachFault? (stage :: stages) = attachFault? stages := by
            unfold attachFault?
            rw [firstWith?_cons_ne hattach, firstWith?_cons_ne hkeep]
            cases firstWith? .attachRaw stages with
            | none => rfl
            | some i =>
                cases firstWith? .preserveRaw stages with
                | none => simp
                | some j => simp
          simp [hfault, ih, hkeep, hattach]

/-- In an accepted order text is kept before it is published. -/
theorem keepsBeforeAttach_of_orderFault? {stages : List Stage} (h : orderFault? stages = none) :
    KeepsBeforeAttach stages := by
  rw [← attachFault?_eq_none_iff]
  simp only [orderFault?] at h
  cases hfault : attachFault? stages with
  | none => rfl
  | some fault =>
      rw [hfault] at h
      cases h

/-- The last element of a list with a property. -/
theorem exists_last {α : Type} {p : α → Prop} {l : List α} (h : ∃ x ∈ l, p x) :
    ∃ front x back, l = front ++ x :: back ∧ p x ∧ ∀ y ∈ back, ¬p y := by
  induction l with
  | nil =>
      obtain ⟨x, hx, -⟩ := h
      cases hx
  | cons a l ih =>
      by_cases hl : ∃ x ∈ l, p x
      · obtain ⟨front, x, back, rfl, hx, hback⟩ := ih hl
        exact ⟨a :: front, x, back, rfl, hx, hback⟩
      · obtain ⟨x, hm, hx⟩ := h
        rcases List.mem_cons.1 hm with rfl | hm
        · exact ⟨[], x, l, rfl, hx, fun y hy hpy => hl ⟨y, hy, hpy⟩⟩
        · exact (hl ⟨x, hm, hx⟩).elim

/-- Where text is kept before it is published, each stage that publishes it has one before it that
keeps it. -/
theorem KeepsBeforeAttach.hasRole {stages front back : List Stage} {stage : Stage}
    (h : KeepsBeforeAttach stages) (hsplit : stages = front ++ stage :: back)
    (hrole : stage.role = .attachRaw) : HasRole .preserveRaw front := by
  by_contra hnone
  -- Otherwise the stage is among those before the first one that keeps text.
  have hfront : ∀ other ∈ front, (other.role != .preserveRaw) = true := by
    intro other hm
    simpa using fun heq => hnone ⟨other, hm, heq⟩
  refine h stage ?_ hrole
  rw [hsplit, List.takeWhile_append_of_pos hfront, List.takeWhile_cons, hrole]
  exact List.mem_append_right _ List.mem_cons_self

/-- Where text is kept before it is published, the last stage that publishes it follows one that
keeps it; the last such one counts. -/
theorem KeepsBeforeAttach.exists_last_keep {stages : List Stage} (h : KeepsBeforeAttach stages)
    (hattach : ∃ stage ∈ stages, stage.role = .attachRaw) :
    ∃ front keep middle attach back, stages = front ++ keep :: (middle ++ attach :: back) ∧
      keep.role = .preserveRaw ∧ (∀ stage ∈ middle, stage.role ≠ .preserveRaw) ∧
      attach.role = .attachRaw ∧ ∀ stage ∈ back, stage.role ≠ .attachRaw := by
  obtain ⟨before, attach, back, rfl, hrole, hback⟩ := exists_last hattach
  obtain ⟨front, keep, middle, rfl, hkeep, hmiddle⟩ := exists_last (h.hasRole rfl hrole)
  exact ⟨front, keep, middle, attach, back, by simp, hkeep, hmiddle, hrole, hback⟩

/-! ## Accepted pipelines -/

namespace Pipeline

theorem ofStages_eq_ok {parse : ParseOptions} {stages : List Stage}
    (h : orderFault? stages = none) : ofStages parse stages = .ok ⟨parse, stages, h⟩ := by
  unfold ofStages
  split
  · rename_i fault hfault
    rw [h] at hfault
    cases hfault
  · rfl

theorem ofStages_eq_error {parse : ParseOptions} {stages : List Stage} {fault : OrderFault}
    (h : orderFault? stages = some fault) : ofStages parse stages = .error (.pipeline fault) := by
  unfold ofStages
  split
  · rename_i found hfound
    rw [h] at hfound
    cases hfound
    rfl
  · rename_i hnone
    rw [h] at hnone
    cases hnone

/-- An accepted pipeline has the stages it was made of. -/
theorem stages_of_ofStages {parse : ParseOptions} {stages : List Stage} {pipeline : Pipeline}
    (h : ofStages parse stages = .ok pipeline) : pipeline.stages = stages := by
  unfold ofStages at h
  split at h
  · cases h
  · cases h
    rfl

end Pipeline

end Folio
