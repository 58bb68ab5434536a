import Folio.Fence
import Folio.Proofs.Text.Line
import Mathlib.Data.List.TakeWhile

/-!
# Written fences

A fenced block as an author writes it: the line that opens it, the lines of its interior, and the
line that closes it.  All lines but the first have the same front, which its containers put there.
Cutting the interior out of what is written gives the lines of the interior.
-/

namespace Folio.Fence

open Folio.Text

/-! ## Runs -/

/-- A run of enough fence characters is read whole. -/
theorem run?_replicate {marker : Char} (hm : isMarker marker) {length : Nat} (hl : 3 ≤ length)
    {rest : List Char} (hrest : rest.head? ≠ some marker) :
    run? (List.replicate length marker ++ rest) = some ⟨marker, length, rest⟩ := by
  obtain ⟨n, rfl⟩ : ∃ n, length = n + 1 := ⟨length - 1, by omega⟩
  have hfront : ∀ a ∈ List.replicate n marker, (a == marker) = true := by
    intro a ha
    simp [List.eq_of_mem_replicate ha]
  have hback : ∀ a ∈ rest.head?, (a == marker) = false := by
    intro a ha
    rw [beq_eq_false_iff_ne]
    rintro rfl
    exact hrest ha
  rw [List.replicate_succ, List.cons_append, run?, if_pos hm, takeWhile_front hfront hback,
    dropWhile_front hfront hback, List.length_replicate, if_pos hl]

/-- A run of enough fence characters starts with one. -/
theorem exists_run {length : Nat} (hl : 3 ≤ length) (marker : Char) (rest : List Char) :
    ∃ tail, List.replicate length marker ++ rest = marker :: tail := by
  obtain ⟨n, rfl⟩ : ∃ n, length = n + 1 := ⟨length - 1, by omega⟩
  exact ⟨_, rfl⟩

theorem isMarker_iff {c : Char} : isMarker c ↔ c = '\x60' ∨ c = '~' := by
  simp [isMarker]

theorem isMarker_tilde : isMarker '~' :=
  isMarker_iff.2 (.inr rfl)

/-- A fence character indents nothing. -/
theorem isIndent_of_isMarker {c : Char} (h : isMarker c) : isIndent c = false := by
  rcases isMarker_iff.1 h with rfl | rfl <;> rfl

/-- A fence character is visible. -/
theorem visible_of_isMarker {c : Char} (h : isMarker c) : c ≠ ' ' ∧ c ≠ '\n' ∧ c ≠ '\r' := by
  rcases isMarker_iff.1 h with rfl | rfl <;> decide

/-- A fence character ends no line. -/
theorem isReturn_of_isMarker {c : Char} (h : isMarker c) : isReturn c = false := by
  rcases isMarker_iff.1 h with rfl | rfl <;> rfl

theorem isMarker_of_isDigit {c : Char} (h : c.isDigit) : isMarker c = false := by
  rw [Bool.eq_false_iff, ne_eq, isMarker_iff]
  rintro (rfl | rfl)
  · cases h
  · cases h

/-! ## Blocks -/

/-- A fenced block.  The line that closes it may be indented further than its container, and blanks
may follow its fence. -/
structure Block where
  marker : Char
  length : Nat
  info : Line
  interior : List Line
  closeIndent : Nat := 0
  closeLength : Nat
  closeTail : List Char := []
  marker_isMarker : isMarker marker
  three_le_length : 3 ≤ length
  info_head : info.text.head? ≠ some marker
  length_le_closeLength : length ≤ closeLength
  closeTail_isIndent : ∀ c ∈ closeTail, isIndent c

namespace Block

variable (block : Block)

/-- The line that opens the block. -/
def opener : List Char :=
  List.replicate block.length block.marker ++ block.info.text

/-- The line that closes the block. -/
def closer : List Char :=
  List.replicate block.closeIndent ' ' ++
    (List.replicate block.closeLength block.marker ++ block.closeTail)

/-- The block as it is written after its first line has been started, with a front for each of the
other lines. -/
def written (front : List Char) : List Char :=
  block.opener ++ '\n' ::
    ((block.interior.flatMap fun line => front ++ line.written) ++ (front ++ block.closer))

/-- The text of the interior. -/
def text : List Char :=
  block.interior.flatMap Line.written

theorem run?_opener : run? block.opener = some ⟨block.marker, block.length, block.info.text⟩ :=
  run?_replicate block.marker_isMarker block.three_le_length block.info_head

/-- The block starts with its marker. -/
theorem exists_opener : ∃ rest, block.opener = block.marker :: rest :=
  exists_run block.three_le_length block.marker block.info.text

theorem marker_ne_newline : block.marker ≠ '\n' :=
  (visible_of_isMarker block.marker_isMarker).2.1

theorem newline_notMem_opener : '\n' ∉ block.opener := by
  simp [opener, block.info.oneLine, Ne.symm block.marker_ne_newline]

theorem newline_notMem_closer : '\n' ∉ block.closer := by
  have htail : '\n' ∉ block.closeTail := by
    intro hm
    cases block.closeTail_isIndent _ hm
  simp [closer, htail, Ne.symm block.marker_ne_newline]

theorem three_le_closeLength : 3 ≤ block.closeLength :=
  Nat.le_trans block.three_le_length block.length_le_closeLength

/-- The fence of the closing line starts with its marker. -/
theorem exists_closeFence : ∃ rest,
    List.replicate block.closeLength block.marker ++ block.closeTail = block.marker :: rest :=
  exists_run block.three_le_closeLength block.marker block.closeTail

/-- The line that closes the block, without its indentation. -/
theorem dropWhile_closer : block.closer.dropWhile isIndent =
    List.replicate block.closeLength block.marker ++ block.closeTail := by
  obtain ⟨rest, hrest⟩ := block.exists_closeFence
  refine dropWhile_front ?_ ?_
  · intro c hc
    rw [List.eq_of_mem_replicate hc]
    rfl
  · intro c hc
    rw [hrest, List.head?_cons] at hc
    cases hc
    exact isIndent_of_isMarker block.marker_isMarker

/-- The line that opens the block is not indented. -/
theorem dropWhile_opener : block.opener.dropWhile isIndent = block.opener := by
  obtain ⟨rest, hrest⟩ := block.exists_opener
  rw [hrest, List.dropWhile_cons_of_neg]
  simp [isIndent_of_isMarker block.marker_isMarker]

theorem run?_closer : run? (block.closer.dropWhile isIndent) =
    some ⟨block.marker, block.closeLength, block.closeTail⟩ := by
  rw [dropWhile_closer]
  refine run?_replicate block.marker_isMarker block.three_le_closeLength ?_
  intro hhead
  have hindent := block.closeTail_isIndent _ (List.mem_of_mem_head? hhead)
  rw [isIndent_of_isMarker block.marker_isMarker] at hindent
  cases hindent

/-- Nothing but blanks follows the fence of the line that closes the block. -/
theorem trim_closeTail : trim block.closeTail = [] := by
  have hdrop : block.closeTail.dropWhile isBlank = [] := by
    rw [List.dropWhile_eq_nil_iff]
    exact fun c hc => isBlank_of_isIndent (block.closeTail_isIndent c hc)
  rw [trim, dropBothWhile, hdrop]
  rfl

/-- The closing line closes the fences of its character that are at most as long. -/
theorem closes_iff (state : State) :
    Run.closes ⟨block.marker, block.closeLength, block.closeTail⟩ state ↔
      state.marker = some block.marker ∧ state.length ≤ block.closeLength := by
  simp only [Run.closes, block.trim_closeTail, List.isEmpty_nil, Bool.and_true, Bool.and_eq_true,
    beq_iff_eq, decide_eq_true_eq]
  exact and_congr_left' eq_comm

/-- The last character of the block ends no line. -/
theorem exists_closer : ∃ init c, block.closer = init ++ [c] ∧ isReturn c = false := by
  rcases List.eq_nil_or_concat block.closeTail with htail | ⟨init, c, htail⟩
  · have hthree := block.three_le_closeLength
    obtain ⟨n, hn⟩ : ∃ n, block.closeLength = n + 1 := ⟨block.closeLength - 1, by omega⟩
    refine ⟨List.replicate block.closeIndent ' ' ++ List.replicate n block.marker, block.marker, ?_,
      isReturn_of_isMarker block.marker_isMarker⟩
    rw [closer, htail, hn, List.replicate_succ', List.append_nil, List.append_assoc]
  · have hc : c ∈ block.closeTail := by simp [htail]
    refine ⟨List.replicate block.closeIndent ' ' ++
      (List.replicate block.closeLength block.marker ++ init), c, ?_,
      isReturn_of_isIndent (block.closeTail_isIndent c hc)⟩
    rw [closer, htail, List.concat_eq_append, List.append_assoc, List.append_assoc]

/-- No line end is at the end of the block. -/
theorem dropEndWhile_written (front : List Char) :
    dropEndWhile isReturn (block.written front) = block.written front := by
  obtain ⟨init, c, hcloser, hc⟩ := block.exists_closer
  rw [written, hcloser, ← List.append_assoc, ← List.append_assoc, ← List.cons_append,
    ← List.append_assoc]
  exact dropEndWhile_concat hc _

theorem forall_mem_opener : ∀ c ∈ block.opener, (c != '\n') = true := by
  intro c hc
  rw [bne_iff_ne]
  rintro rfl
  exact block.newline_notMem_opener hc

/-- The first line of the block. -/
theorem takeWhile_written (front : List Char) :
    (block.written front).takeWhile (· != '\n') = block.opener :=
  takeWhile_front block.forall_mem_opener (by simp)

/-- The other lines of the block. -/
theorem dropWhile_written (front : List Char) :
    (block.written front).dropWhile (· != '\n') = '\n' ::
      ((block.interior.flatMap fun line => front ++ line.written) ++ (front ++ block.closer)) :=
  dropWhile_front block.forall_mem_opener (by simp)

end Block

/-! ## Fronts of lines -/

/-- A front that containers put before a line. -/
def IsFront (front : List Char) : Prop :=
  ∀ c ∈ front, isIndent c || c == '>'

theorem IsFront.newline_notMem {front : List Char} (h : IsFront front) : '\n' ∉ front := by
  intro hm
  cases h _ hm

/-- Exactly the front is dropped from a line, whatever follows it. -/
theorem stripContainer_front {front : List Char} (h : IsFront front) (line : List Char) :
    stripContainer front.length (front ++ line) = line := by
  induction front with
  | nil => cases line <;> rfl
  | cons c front ih =>
      rw [IsFront, List.forall_mem_cons] at h
      rw [List.length_cons, List.cons_append, stripContainer, if_pos h.1, ih h.2]

/-- The interior of a block is what was written into it. -/
theorem interior?_written (block : Block) {front : List Char} (hfront : IsFront front) :
    interior? (block.written front) front.length = some block.text := by
  have hclose : '\n' ∉ front ++ block.closer := by
    simp [hfront.newline_notMem, block.newline_notMem_closer]
  have hcloses : Run.closes ⟨block.marker, block.closeLength, block.closeTail⟩
      { inside := true, marker := some block.marker, length := block.length } :=
    (block.closes_iff _).2 ⟨rfl, block.length_le_closeLength⟩
  have htext : (linesWithEnds (block.interior.flatMap fun line => front ++ line.written)).flatMap
      (stripContainer front.length) = block.text := by
    rw [linesWithEnds_flatMap hfront.newline_notMem, List.flatMap_map]
    simp only [stripContainer_front hfront]
    rfl
  -- Each cut of the block gives the part that was written there.
  unfold interior?
  simp only [block.dropEndWhile_written, block.takeWhile_written, block.dropWhile_written,
    block.dropWhile_opener, block.run?_opener, Option.bind_eq_bind, Option.bind_some,
    splitLastLine_append (wholeLines_flatMap front block.interior) hclose,
    stripContainer_front hfront, block.run?_closer, htext]
  rw [if_pos hcloses]

end Folio.Fence
