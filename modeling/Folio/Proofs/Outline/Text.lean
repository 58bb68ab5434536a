import Folio.Outline
import Folio.Proofs.Fence.Scan

/-!
# Outlines of texts in parts

The outline of a text that is put together from whole lines and a rest: that of the lines, and then
what the rest writes in the fence state that the lines leave.
-/

namespace Folio

open Folio.Text

theorem lineHeadings_append (state : Fence.State) (ls ms : List (List Char)) :
    lineHeadings state (ls ++ ms) = lineHeadings state ls ++ lineHeadings (state.scan ls) ms := by
  induction ls generalizing state with
  | nil => rfl
  | cons line ls ih =>
      have hscan : state.scan (line :: ls) = (state.advance line).next.scan ls := rfl
      simp only [List.cons_append, lineHeadings, ih, hscan]
      by_cases hfence : (state.advance line).inFence
      · rw [if_pos hfence, if_pos hfence]
      · rw [if_neg hfence, if_neg hfence, List.append_assoc]

theorem textOutline_ofList (cs : List Char) :
    textOutline (String.ofList cs) = lineHeadings {} (lines cs) := by
  rw [textOutline, String.toList_ofList]

/-- The outline of whole lines and a rest. -/
theorem textOutline_append {before : List Char} (h : WholeLines before) (after : List Char) :
    textOutline (String.ofList (before ++ after)) = textOutline (String.ofList before) ++
      lineHeadings (({} : Fence.State).scan (lines before)) (lines after) := by
  rw [textOutline_ofList, textOutline_ofList, lines_append h, lineHeadings_append]

/-! ## Lines that write a heading -/

/-- A line that starts with number signs and a space is a heading if they are two to four and the
rest is not blank. -/
theorem lineHeading?_marks (level : Nat) (rest : List Char) :
    lineHeading? (List.replicate level '#' ++ ' ' :: rest) =
      if 2 ≤ level && level ≤ 4 && !(trimEnd rest).isEmpty then
        some (Heading.ofText level (String.ofList (trimEnd rest)))
      else none := by
  have hfront : ∀ c ∈ List.replicate level '#', (c == '#') = true := by
    intro c hc
    rw [List.eq_of_mem_replicate hc]
    rfl
  have hspace : ∀ c ∈ (' ' :: rest).head?, (c == '#') = false := by
    rintro c ⟨⟩
    rfl
  rw [lineHeading?, takeWhile_front hfront hspace, dropWhile_front hfront hspace,
    List.length_replicate]
  rfl

/-! ## Lines that write no heading -/

/-- A line is no heading if it starts with neither a number sign nor a line end. -/
theorem lineHeading?_of_head {c : Char} (hmark : c ≠ '#') (hreturn : c ≠ '\r') (line : List Char) :
    lineHeading? (dropEndWhile (· == '\r') (c :: line)) = none := by
  obtain ⟨rest, hrest⟩ : ∃ rest, dropEndWhile (· == '\r') (c :: line) = c :: rest := by
    rw [dropEndWhile]
    split
    · rw [if_neg (by simpa using hreturn)]
      exact ⟨[], rfl⟩
    · exact ⟨_, rfl⟩
  have hmarks : (c :: rest).takeWhile (· == '#') = [] :=
    List.takeWhile_cons_of_neg (by simpa using hmark)
  rw [hrest, lineHeading?, hmarks]
  split
  · rfl
  · rfl

theorem lineHeadings_eq_nil {ls : List (List Char)}
    (h : ∀ line ∈ ls, ∃ c rest, line = c :: rest ∧ c ≠ '#' ∧ c ≠ '\r') (state : Fence.State) :
    lineHeadings state ls = [] := by
  induction ls generalizing state with
  | nil => rfl
  | cons line ls ih =>
      rw [List.forall_mem_cons] at h
      obtain ⟨⟨c, rest, rfl, hmark, hreturn⟩, hls⟩ := h
      simp only [lineHeadings, ih hls, lineHeading?_of_head hmark hreturn]
      split
      · rfl
      · rfl

/-! ## Lines in fences -/

section

variable {state : Fence.State} {ls : List (List Char)}

/-- A line in a fence writes no heading. -/
theorem lineHeadings_of_inFence {line : List Char} (h : (state.advance line).inFence)
    (ms : List (List Char)) :
    lineHeadings state (line :: ms) = lineHeadings (state.next line) ms := by
  rw [lineHeadings]
  simp only [h, if_true]
  rfl

theorem inFence_of_inside (h : state.inside) (line : List Char) :
    (state.advance line).inFence := by
  simp [Fence.State.advance, h]

/-- Lines that leave an open fence as it is write no heading. -/
theorem lineHeadings_of_same (hin : state.inside) (h : ∀ line ∈ ls, state.next line = state)
    (ms : List (List Char)) : lineHeadings state (ls ++ ms) = lineHeadings state ms := by
  induction ls with
  | nil => rfl
  | cons line ls ih =>
      rw [List.forall_mem_cons] at h
      rw [List.cons_append, lineHeadings_of_inFence (inFence_of_inside hin line), h.1, ih h.2]

/-- The first line behind an open fence writes no heading. -/
theorem lineHeadings_of_inside (h : state.inside) (line : List Char) :
    lineHeadings state [line] = [] :=
  lineHeadings_of_inFence (inFence_of_inside h line) []

/-- Lines of which the first one opens a fence, the last one closes it and the others leave it as it
is write no heading. -/
theorem lineHeadings_of_closed {opener closer : List Char} (hin : state.inside)
    (hopens : ({} : Fence.State).next opener = state) (h : ∀ line ∈ ls, state.next line = state)
    (hcloses : state.next closer = {}) (ms : List (List Char)) :
    lineHeadings {} (opener :: (ls ++ closer :: ms)) = lineHeadings {} ms := by
  have hopener : (({} : Fence.State).advance opener).inFence := by
    simp [Fence.State.advance, hopens, hin]
  rw [lineHeadings_of_inFence hopener, hopens, lineHeadings_of_same hin h,
    lineHeadings_of_inFence (inFence_of_inside hin closer), hcloses]

end

end Folio
