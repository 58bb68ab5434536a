import Folio.Proofs.Pipeline.Order

/-!
# The contract on the order of stages

Wherever a stage changes code, some stage before it keeps the text of code and some stage after it
publishes it; and wherever a stage publishes text, some stage before it keeps it.  The check
compares a few extremal positions instead: the first stage that keeps, the first that publishes and
the last that does.  It accepts exactly the lists of stages that meet the contract, and a fault that
it reports names a stage that breaks it.
-/

namespace Folio

/-! ## The contract -/

/-- Every stage of the list that changes code stands between one that keeps its text and one that
publishes it, and every stage that publishes text stands behind one that keeps it. -/
structure InOrder (stages : List Stage) : Prop where
  kept_of_highlight : ∀ front stage back, stages = front ++ stage :: back →
    stage.role = .highlight → HasRole .preserveRaw front
  attached_of_highlight : ∀ front stage back, stages = front ++ stage :: back →
    stage.role = .highlight → HasRole .attachRaw back
  kept_of_attach : ∀ front stage back, stages = front ++ stage :: back →
    stage.role = .attachRaw → HasRole .preserveRaw front

/-- The fault is there to be found: a stage of the name that it tells breaks the contract in the way
that it tells. -/
def OrderFault.FoundIn (stages : List Stage) : OrderFault → Prop
  | .attachesUnkept name => ∃ front stage back, stages = front ++ stage :: back ∧
      stage.name = name ∧ stage.role = .attachRaw ∧ ¬HasRole .preserveRaw front
  | .highlightsUnkept name => ∃ front stage back, stages = front ++ stage :: back ∧
      stage.name = name ∧ stage.role = .highlight ∧ ¬HasRole .preserveRaw front
  | .highlightsUnattached name => ∃ front stage back, stages = front ++ stage :: back ∧
      stage.name = name ∧ stage.role = .highlight ∧ ¬HasRole .attachRaw back
  | .stated _ => False

/-- A list of stages in which a fault is found does not meet the contract. -/
theorem OrderFault.FoundIn.not_inOrder {stages : List Stage} {fault : OrderFault}
    (h : fault.FoundIn stages) : ¬InOrder stages := by
  intro horder
  cases fault with
  | attachesUnkept name =>
      obtain ⟨front, stage, back, hsplit, -, hrole, hnone⟩ := h
      exact hnone (horder.kept_of_attach front stage back hsplit hrole)
  | highlightsUnkept name =>
      obtain ⟨front, stage, back, hsplit, -, hrole, hnone⟩ := h
      exact hnone (horder.kept_of_highlight front stage back hsplit hrole)
  | highlightsUnattached name =>
      obtain ⟨front, stage, back, hsplit, -, hrole, hnone⟩ := h
      exact hnone (horder.attached_of_highlight front stage back hsplit hrole)
  | stated reason => exact h

/-! ## Extremal positions -/

section

variable {role : Role} {stages front back : List Stage} {stage : Stage}

theorem hasRole_concat (h : stage.role ≠ role) :
    HasRole role (front ++ [stage]) ↔ HasRole role front := by
  simp [HasRole, or_and_right, exists_or, h]

theorem firstWith?_eq_none_iff : firstWith? role stages = none ↔ ¬HasRole role stages := by
  simp [firstWith?, HasRole]

/-- A stage is at a position exactly if so many stages stand before it. -/
theorem getElem?_eq_some_iff_split {i : Nat} : stages[i]? = some stage ↔
    ∃ front back, stages = front ++ stage :: back ∧ front.length = i := by
  constructor
  · intro h
    obtain ⟨hi, rfl⟩ := List.getElem?_eq_some_iff.1 h
    refine ⟨stages.take i, stages.drop (i + 1), ?_, ?_⟩
    · rw [List.getElem_cons_drop, List.take_append_drop]
    · rw [List.length_take]
      omega
  · rintro ⟨front, back, rfl, rfl⟩
    simp

/-- The first position of a role is that of a stage with the role. -/
theorem split_of_firstWith? {i : Nat} (h : firstWith? role stages = some i) :
    ∃ front stage back, stages = front ++ stage :: back ∧ front.length = i ∧ stage.role = role := by
  obtain ⟨hi, hrole, -⟩ := List.findIdx?_eq_some_iff_getElem.1 h
  obtain ⟨front, back, hsplit, hlength⟩ :=
    getElem?_eq_some_iff_split.1 (List.getElem?_eq_getElem hi)
  exact ⟨front, stages[i], back, hsplit, hlength, by simpa using hrole⟩

/-- The first stage with a role is not in a front exactly if no stage of the front has the role. -/
theorem all_firstWith?_iff (role : Role) (front back : List Stage) :
    (firstWith? role (front ++ back)).all (front.length ≤ ·) ↔ ¬HasRole role front := by
  rw [← firstWith?_eq_none_iff]
  simp only [firstWith?, List.findIdx?_append]
  cases hfront : front.findIdx? (·.role == role) with
  | none =>
      cases back.findIdx? (·.role == role) with
      | none => simp
      | some i => simp
  | some i =>
      obtain ⟨hi, -⟩ := List.findIdx?_eq_some_iff_getElem.1 hfront
      simpa using hi

/-- The last stage with a role is not in a back exactly if no stage of the back has the role. -/
theorem all_lastWith?_iff (role : Role) (front back : List Stage) :
    (lastWith? role (front ++ back)).all (· < front.length) ↔ ¬HasRole role back := by
  have hreverse : HasRole role back ↔ HasRole role back.reverse := by simp [HasRole]
  rw [hreverse, ← firstWith?_eq_none_iff]
  simp only [lastWith?, firstWith?, List.reverse_append, List.findIdx?_append, List.length_append]
  cases hback : back.reverse.findIdx? (·.role == role) with
  | none =>
      cases hfront : front.reverse.findIdx? (·.role == role) with
      | none => simp
      | some i =>
          obtain ⟨hi, -⟩ := List.findIdx?_eq_some_iff_getElem.1 hfront
          rw [List.length_reverse] at hi
          have hlt : front.length + back.length - 1 - (i + back.length) < front.length := by omega
          simpa using hlt
  | some i =>
      obtain ⟨hi, -⟩ := List.findIdx?_eq_some_iff_getElem.1 hback
      rw [List.length_reverse] at hi
      have hle : front.length ≤ front.length + back.length - 1 - i := by omega
      simpa using hle

/-- A stage does not stand behind the first one with another role exactly if no stage before it has
that role. -/
theorem all_lt_firstWith?_iff (h : stage.role ≠ role) :
    (firstWith? role (front ++ stage :: back)).all (front.length < ·) ↔ ¬HasRole role front := by
  have hsplit : front ++ stage :: back = (front ++ [stage]) ++ back := by simp
  rw [hsplit, ← hasRole_concat h, ← all_firstWith?_iff role (front ++ [stage]) back,
    List.length_append, List.length_singleton]
  rfl

/-- A stage does not stand before the last one with another role exactly if no stage behind it has
that role. -/
theorem all_lastWith?_lt_iff (h : stage.role ≠ role) :
    (lastWith? role (front ++ stage :: back)).all (· < front.length) ↔ ¬HasRole role back := by
  rw [all_lastWith?_iff]
  simp [HasRole, h]

end

/-! ## The check -/

section

variable {stages : List Stage} {fault : OrderFault}

theorem foundIn_of_attachFault? (h : attachFault? stages = some fault) : fault.FoundIn stages := by
  unfold attachFault? at h
  cases hfirst : firstWith? .attachRaw stages with
  | none =>
      rw [hfirst] at h
      cases h
  | some i =>
      obtain ⟨front, stage, back, rfl, rfl, hrole⟩ := split_of_firstWith? hfirst
      have hne : stage.role ≠ .preserveRaw := by simp [hrole]
      simp only [hfirst, Option.bind_eq_bind, Option.bind_some,
        List.getElem?_append_right (Nat.le_refl _), Nat.sub_self, List.getElem?_cons_zero] at h
      split at h
      · rename_i hall
        cases h
        exact ⟨front, stage, back, rfl, rfl, hrole, (all_lt_firstWith?_iff hne).1 hall⟩
      · cases h

/-- What the check finds at a stage that changes code, from what stands on either side of it. -/
theorem foundIn_of_highlightFault? {front back : List Stage} {stage : Stage}
    (h : highlightFault? (firstWith? .preserveRaw (front ++ stage :: back))
      (lastWith? .attachRaw (front ++ stage :: back)) front.length stage = some fault) :
    fault.FoundIn (front ++ stage :: back) := by
  unfold highlightFault? at h
  split at h
  · cases h
  · rename_i hnot
    have hrole : stage.role = .highlight := not_not.1 hnot
    split at h
    · rename_i hkeep
      cases h
      have hne : stage.role ≠ .preserveRaw := by simp [hrole]
      exact ⟨front, stage, back, rfl, rfl, hrole, (all_lt_firstWith?_iff hne).1 hkeep⟩
    · split at h
      · rename_i hattach
        cases h
        have hne : stage.role ≠ .attachRaw := by simp [hrole]
        exact ⟨front, stage, back, rfl, rfl, hrole, (all_lastWith?_lt_iff hne).1 hattach⟩
      · cases h

theorem hasRole_of_highlightFault? {front back : List Stage} {stage : Stage}
    (h : highlightFault? (firstWith? .preserveRaw (front ++ stage :: back))
      (lastWith? .attachRaw (front ++ stage :: back)) front.length stage = none)
    (hrole : stage.role = .highlight) :
    HasRole .preserveRaw front ∧ HasRole .attachRaw back := by
  have hkeep : stage.role ≠ .preserveRaw := by simp [hrole]
  have hattach : stage.role ≠ .attachRaw := by simp [hrole]
  rw [highlightFault?, if_neg (not_not.2 hrole)] at h
  split at h
  · cases h
  · rename_i hfront
    split at h
    · cases h
    · rename_i hback
      rw [all_lt_firstWith?_iff hkeep, not_not] at hfront
      rw [all_lastWith?_lt_iff hattach, not_not] at hback
      exact ⟨hfront, hback⟩

theorem orderFault?_eq_or (stages : List Stage) : orderFault? stages =
    (attachFault? stages).or (stages.zipIdx.findSome? fun (stage, i) =>
      highlightFault? (firstWith? .preserveRaw stages) (lastWith? .attachRaw stages) i stage) := by
  unfold orderFault?
  cases attachFault? stages <;> rfl

/-- A fault that the check reports is there to be found. -/
theorem foundIn_of_orderFault? (h : orderFault? stages = some fault) : fault.FoundIn stages := by
  rw [orderFault?_eq_or] at h
  rcases Option.or_eq_some_iff.1 h with hattach | ⟨-, hhighlight⟩
  · exact foundIn_of_attachFault? hattach
  · obtain ⟨⟨stage, i⟩, hm, hfault⟩ := List.exists_of_findSome?_eq_some hhighlight
    obtain ⟨front, back, rfl, rfl⟩ :=
      getElem?_eq_some_iff_split.1 (List.mk_mem_zipIdx_iff_getElem?.1 hm)
    exact foundIn_of_highlightFault? hfault

/-- A list of stages in which the check finds no fault meets the contract. -/
theorem inOrder_of_orderFault? (h : orderFault? stages = none) : InOrder stages := by
  have hfaultless := h
  rw [orderFault?_eq_or, Option.or_eq_none_iff] at hfaultless
  have hchanged : ∀ front stage back, stages = front ++ stage :: back → stage.role = .highlight →
      HasRole .preserveRaw front ∧ HasRole .attachRaw back := by
    rintro front stage back rfl hrole
    have hm : (stage, front.length) ∈ (front ++ stage :: back).zipIdx :=
      List.mk_mem_zipIdx_iff_getElem?.2 (getElem?_eq_some_iff_split.2 ⟨front, back, rfl, rfl⟩)
    exact hasRole_of_highlightFault? (List.findSome?_eq_none_iff.1 hfaultless.2 _ hm) hrole
  exact {
    kept_of_highlight := fun front stage back hsplit hrole =>
      (hchanged front stage back hsplit hrole).1
    attached_of_highlight := fun front stage back hsplit hrole =>
      (hchanged front stage back hsplit hrole).2
    kept_of_attach := fun front stage back hsplit hrole =>
      (keepsBeforeAttach_of_orderFault? h).hasRole hsplit hrole }

theorem orderFault?_eq_none_iff : orderFault? stages = none ↔ InOrder stages := by
  refine ⟨inOrder_of_orderFault?, fun horder => ?_⟩
  cases hfault : orderFault? stages with
  | none => rfl
  -- A fault that is reported is one, so a list in order has none to report.
  | some fault => exact ((foundIn_of_orderFault? hfault).not_inOrder horder).elim

end

/-! ## Pipelines -/

/-- A list of stages makes a pipeline, of just these stages, exactly if it meets the contract on
their order.  Otherwise it is refused as an invalid pipeline, with a fault that is there to be
found. -/
theorem ofStages_accepts_iff_inOrder (parse : ParseOptions) (stages : List Stage) :
    ((∃ pipeline, Pipeline.ofStages parse stages = .ok pipeline ∧ pipeline.parse = parse ∧
        pipeline.stages = stages) ↔ InOrder stages) ∧
      ((∃ fault, Pipeline.ofStages parse stages = .error (.pipeline fault) ∧
        fault.FoundIn stages) ↔ ¬InOrder stages) := by
  rw [← orderFault?_eq_none_iff]
  cases hfault : orderFault? stages with
  | none =>
      rw [Pipeline.ofStages_eq_ok hfault]
      simp
  | some fault =>
      rw [Pipeline.ofStages_eq_error hfault]
      simpa using foundIn_of_orderFault? hfault

end Folio
