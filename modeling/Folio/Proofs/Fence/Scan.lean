import Folio.Proofs.Fence.Written

/-!
# Scanning lines for fences

What reading lines one after the other does to the fence state: how far a line may be indented for
its fence to count, and what the line that closes a block does to the state it is read in.
-/

namespace Folio.Fence

open Folio.Text

/-! ## Scans -/

/-- The state after a list of lines. -/
def State.scan (state : State) (ls : List (List Char)) : State :=
  ls.foldl State.next state

/-- A line leaves the state, or closes the fence, or opens one. -/
theorem State.next_cases (state : State) (line : List Char) :
    state.next line = state ∨ state.next line = {} ∨ (state.next line).inside := by
  unfold State.next
  split
  · exact Or.inl rfl
  · split
    · split
      · exact Or.inr (Or.inl rfl)
      · exact Or.inl rfl
    · split
      · exact Or.inr (Or.inr rfl)
      · exact Or.inl rfl

/-- Outside of fences nothing is remembered of the fences before. -/
def State.Forgets (state : State) : Prop :=
  state.inside = false → state = {}

theorem State.Forgets.next {state : State} (h : state.Forgets) (line : List Char) :
    (state.next line).Forgets := by
  rcases state.next_cases line with hsame | hclosed | hinside
  · rw [hsame]
    exact h
  · intro _
    exact hclosed
  · intro hout
    rw [hinside] at hout
    cases hout

theorem State.Forgets.scan {state : State} (h : state.Forgets) (ls : List (List Char)) :
    (state.scan ls).Forgets := by
  induction ls generalizing state with
  | nil => exact h
  | cons line ls ih => exact ih (h.next line)

theorem State.forgets_scan (ls : List (List Char)) : (({} : State).scan ls).Forgets := by
  have hstart : ({} : State).Forgets := fun _ => rfl
  exact hstart.scan ls

/-! ## Lines without a fence -/

theorem State.next_of_lineRun?_none (state : State) {line : List Char} (h : lineRun? line = none) :
    state.next line = state := by
  rw [State.next, h]

theorem State.scan_of_lineRun?_none (state : State) {ls : List (List Char)}
    (h : ∀ line ∈ ls, lineRun? line = none) : state.scan ls = state := by
  induction ls with
  | nil => rfl
  | cons line ls ih =>
      rw [List.forall_mem_cons] at h
      rw [State.scan, List.foldl_cons, state.next_of_lineRun?_none h.1]
      exact ih h.2

/-- Spaces at the start of a line are columns. -/
theorem indentFrom_replicate (column width : Nat) (line : List Char) :
    indentFrom column (List.replicate width ' ' ++ line) = indentFrom (column + width) line := by
  induction width generalizing column with
  | zero => rfl
  | succ width ih =>
      rw [List.replicate_succ, List.cons_append, indentFrom, ih, Nat.add_assoc, Nat.add_comm 1]

theorem indentFrom_cons {c : Char} (h : isIndent c = false) (column : Nat) (line : List Char) :
    indentFrom column (c :: line) = (column, c :: line) := by
  unfold indentFrom
  split
  · rename_i heq
    cases heq
    cases h
  · rename_i heq
    cases heq
    cases h
  · rfl

theorem le_indentFrom (column : Nat) (line : List Char) : column ≤ (indentFrom column line).1 := by
  fun_induction indentFrom column line with
  | case1 column line ih => omega
  | case2 column line ih => omega
  | case3 column line => exact Nat.le_refl _

/-- No fence counts on a line that is indented by four columns. -/
theorem lineRun?_of_four_le {width : Nat} (h : 4 ≤ width) (line : List Char) :
    lineRun? (List.replicate width ' ' ++ line) = none := by
  have hcolumns := le_indentFrom (0 + width) line
  rw [lineRun?, indentFrom_replicate]
  exact if_neg (by omega)

/-- No fence is on a line that starts with another character. -/
theorem lineRun?_cons {c : Char} (hindent : isIndent c = false) (hmarker : isMarker c = false)
    (line : List Char) : lineRun? (c :: line) = none := by
  rw [lineRun?, indentFrom_cons hindent]
  simp [run?, hmarker]

/-! ## The line that closes a block -/

namespace Block

variable (block : Block)

/-- The fence of the closing line counts if the line is indented by at most three columns. -/
theorem lineRun?_closer {width : Nat} (h : width + block.closeIndent ≤ 3) :
    lineRun? (List.replicate width ' ' ++ block.closer) =
      some (width + block.closeIndent, ⟨block.marker, block.closeLength, block.closeTail⟩) := by
  obtain ⟨rest, hrest⟩ := block.exists_closeFence
  have hrun := block.run?_closer
  rw [dropWhile_closer, hrest] at hrun
  rw [lineRun?, closer, hrest, indentFrom_replicate, indentFrom_replicate,
    indentFrom_cons (isIndent_of_isMarker block.marker_isMarker), Nat.zero_add]
  simp only [if_pos h, hrun, Option.map_some]

/-- The closing line would open a block of its own. -/
theorem opens_closer : Run.opens ⟨block.marker, block.closeLength, block.closeTail⟩ := by
  have htail : '\x60' ∉ block.closeTail := by
    intro hm
    cases block.closeTail_isIndent _ hm
  simp [Run.opens, htail]

end Block

end Folio.Fence
