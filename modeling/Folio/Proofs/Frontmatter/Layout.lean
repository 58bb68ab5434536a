import Folio.Frontmatter.Block
import Folio.Proofs.Text.Line

/-!
# Sources by their lines

A source is a byte order mark that may be missing, lines of white space, and the lines from the
first one on that shows something.  A block takes the first of these lines up to the next one of the
same content.  What is cut off a source is said for each of the three shapes that its lines can
have.
-/

namespace Folio.Frontmatter

open Folio.Text

/-- The content of the lines that open and close a block. -/
def fence : List Char := ['-', '-', '-']

/-- A source by its lines. -/
structure Sheet where
  /-- The byte order mark, or nothing. -/
  mark : List Char
  /-- The lines of white space that come first. -/
  blanks : List (List Char)
  lines : List (List Char)
  mark_cases : mark = ['\ufeff'] ∨ mark = [] ∧ (blanks ++ lines).flatten.head? ≠ some '\ufeff'
  isLines : IsLines (blanks ++ lines)
  isBlank_blanks : ∀ line ∈ blanks, ∀ c ∈ line, isBlank c
  visible_lines : ∀ line ∈ lines.head?, ∃ c ∈ line, isBlank c = false

/-- The lines of a block: the one that opens it, those inside, and the first one that closes it. -/
structure Block where
  opener : List Char
  inside : List (List Char)
  closer : List Char
  isContent_opener : IsContent fence opener
  not_isContent_inside : ∀ line ∈ inside, ¬ IsContent fence line
  isContent_closer : IsContent fence closer

/-- All lines of a block. -/
def Block.lines (block : Block) : List (List Char) :=
  block.opener :: (block.inside ++ [block.closer])

theorem isFence_iff {line : List Char} : isFence line ↔ IsContent fence line := by
  rw [isContent_iff, isFence, beq_iff_eq]
  rfl

theorem isFence_eq_false_iff {line : List Char} :
    isFence line = false ↔ ¬ IsContent fence line := by
  rw [Bool.eq_false_iff, ne_eq, isFence_iff]

theorem isBlankLine_iff {line : List Char} : isBlankLine line ↔ ∀ c ∈ line, isBlank c := by
  rw [isBlankLine, List.isEmpty_iff, trim_eq_nil_iff]

/-! ## Sheets -/

namespace Sheet

/-- What stands before the first line that shows something. -/
def front (sheet : Sheet) : List Char :=
  sheet.mark ++ sheet.blanks.flatten

/-- The source that a sheet is of. -/
def text (sheet : Sheet) : List Char :=
  sheet.front ++ sheet.lines.flatten

theorem text_eq (sheet : Sheet) :
    sheet.text = sheet.mark ++ (sheet.blanks ++ sheet.lines).flatten := by
  rw [text, front, List.append_assoc, List.flatten_append]

theorem splitMark_text (sheet : Sheet) :
    splitMark sheet.text = (sheet.mark, (sheet.blanks ++ sheet.lines).flatten) := by
  rw [text_eq]
  rcases sheet.mark_cases with hmark | ⟨hmark, hfirst⟩
  · rw [hmark]
    rfl
  · rw [hmark, List.nil_append]
    unfold splitMark
    split
    · rename_i rest htext
      rw [htext] at hfirst
      exact (hfirst rfl).elim
    · rfl

/-- The lines of white space are all that come before one that is not. -/
theorem span_isBlankLine (sheet : Sheet) :
    (linesWithEnds (sheet.blanks ++ sheet.lines).flatten).span isBlankLine =
      (sheet.blanks, sheet.lines) := by
  have hblanks : ∀ line ∈ sheet.blanks, isBlankLine line :=
    fun line hline => isBlankLine_iff.2 (sheet.isBlank_blanks line hline)
  have hlines : ∀ line ∈ sheet.lines.head?, isBlankLine line = false := by
    intro line hline
    obtain ⟨c, hc, hvisible⟩ := sheet.visible_lines line hline
    rw [Bool.eq_false_iff, ne_eq, isBlankLine_iff]
    intro hall
    rw [hall c hc] at hvisible
    cases hvisible
  rw [sheet.isLines.linesWithEnds_flatten, span_front hblanks hlines]

/-- The sheet of a source. -/
def ofSource (source : List Char) : Sheet where
  mark := (splitMark source).1
  blanks := (linesWithEnds (splitMark source).2).takeWhile isBlankLine
  lines := (linesWithEnds (splitMark source).2).dropWhile isBlankLine
  mark_cases := by
    rw [List.takeWhile_append_dropWhile, flatten_linesWithEnds]
    unfold splitMark
    split
    · exact Or.inl rfl
    · rename_i hother
      refine Or.inr ⟨rfl, fun hfirst => ?_⟩
      obtain ⟨rest, rfl⟩ := List.head?_eq_some_iff.1 hfirst
      exact hother rest rfl
  isLines := by
    rw [List.takeWhile_append_dropWhile]
    exact isLines_linesWithEnds _
  isBlank_blanks := fun line hline => isBlankLine_iff.1 (List.mem_takeWhile_imp hline)
  visible_lines := by
    intro line hline
    have hnot := List.head?_dropWhile_not isBlankLine (linesWithEnds (splitMark source).2)
    rw [Option.mem_def.1 hline] at hnot
    by_contra hnone
    push Not at hnone
    have hblank : isBlankLine line := isBlankLine_iff.2 fun c hc => by simpa using hnone c hc
    simp [hblank] at hnot

theorem text_ofSource (source : List Char) : (ofSource source).text = source := by
  have hmark : (splitMark source).1 ++ (splitMark source).2 = source := by
    unfold splitMark
    split
    · rfl
    · rfl
  rw [text_eq, ofSource, List.takeWhile_append_dropWhile, flatten_linesWithEnds, hmark]

/-- The lines of a sheet open no block, or one that is not closed, or start with a block. -/
theorem lines_cases (sheet : Sheet) :
    (∀ line ∈ sheet.lines.head?, ¬ IsContent fence line) ∨
      (∃ opener rest, sheet.lines = opener :: rest ∧ IsContent fence opener ∧
        ∀ line ∈ rest, ¬ IsContent fence line) ∨
      ∃ (block : Block) (rest : List (List Char)), sheet.lines = block.lines ++ rest := by
  cases hlines : sheet.lines with
  | nil => exact Or.inl fun line hline => by cases hline
  | cons opener lines =>
      by_cases hopener : IsContent fence opener
      · right
        -- The first line behind the opener with the content of a fence closes the block.
        have hinside : ∀ line ∈ lines.takeWhile fun line => !isFence line,
            ¬ IsContent fence line := by
          intro line hline
          have hother := List.mem_takeWhile_imp hline
          rw [← isFence_iff]
          simpa using hother
        cases hrest : lines.dropWhile fun line => !isFence line with
        | nil =>
            have hall : lines.takeWhile (fun line => !isFence line) = lines := by
              rw [← List.append_nil (lines.takeWhile _), ← hrest, List.takeWhile_append_dropWhile]
            rw [hall] at hinside
            exact Or.inl ⟨opener, lines, rfl, hopener, hinside⟩
        | cons closer rest =>
            have hcloser : IsContent fence closer := by
              have hfirst := List.head?_dropWhile_not (fun line => !isFence line) lines
              rw [hrest] at hfirst
              rw [← isFence_iff]
              simpa using hfirst
            refine Or.inr ⟨⟨opener, _, closer, hopener, hinside, hcloser⟩, rest, ?_⟩
            rw [Block.lines, List.cons_append, List.append_assoc, List.singleton_append, ← hrest,
              List.takeWhile_append_dropWhile]
      · refine Or.inl fun line hline => ?_
        cases hline
        exact hopener

end Sheet

/-! ## Cutting a sheet -/

section

variable (sheet : Sheet)

/-- A source that opens no block is all body. -/
theorem Cut.ofSource_of_no_block (h : ∀ line ∈ sheet.lines.head?, ¬ IsContent fence line) :
    Cut.ofSource sheet.text = .ok { body := sheet.text } := by
  unfold Cut.ofSource
  rw [sheet.splitMark_text]
  simp only [sheet.span_isBlankLine]
  split
  · rfl
  · rename_i opener lines hlines
    have hopener : ¬ isFence opener := by
      rw [isFence_iff]
      exact h opener (by rw [hlines]; rfl)
    rw [if_neg hopener]

/-- A block that is opened and not closed is an error. -/
theorem Cut.ofSource_of_unclosed {opener : List Char} {rest : List (List Char)}
    (hlines : sheet.lines = opener :: rest) (hopener : IsContent fence opener)
    (hrest : ∀ line ∈ rest, ¬ IsContent fence line) :
    Cut.ofSource sheet.text = .error .unterminated := by
  have hopen : ∀ line ∈ rest, !isFence line := by
    intro line hline
    rw [isFence_eq_false_iff.2 (hrest line hline)]
    rfl
  have hspan : rest.span (fun line => !isFence line) = (rest, []) := by
    have hnil : ∀ line ∈ ([] : List (List Char)).head?, (!isFence line) = false := by simp
    simpa using span_front hopen hnil
  unfold Cut.ofSource
  rw [sheet.splitMark_text]
  simp only [sheet.span_isBlankLine]
  simp only [hlines, if_pos (isFence_iff.2 hopener), hspan]

/-- A block is cut off with all that stands before it, at the first line that closes it. -/
theorem Cut.ofSource_of_block {block : Block} {rest : List (List Char)}
    (hlines : sheet.lines = block.lines ++ rest) :
    Cut.ofSource sheet.text =
      .ok {
        head := sheet.front ++ block.lines.flatten
        block := some (dropEndWhile isReturn block.inside.flatten)
        body := rest.flatten } := by
  have hinside : ∀ line ∈ block.inside, !isFence line := by
    intro line hline
    rw [isFence_eq_false_iff.2 (block.not_isContent_inside line hline)]
    rfl
  have hcloser : ∀ line ∈ (block.closer :: rest).head?, (!isFence line) = false := by
    intro line hline
    cases hline
    rw [isFence_iff.2 block.isContent_closer]
    rfl
  have hall : sheet.lines = block.opener :: (block.inside ++ block.closer :: rest) := by
    rw [hlines, Block.lines, List.cons_append, List.append_assoc, List.singleton_append]
  unfold Cut.ofSource
  rw [sheet.splitMark_text]
  simp only [sheet.span_isBlankLine]
  simp only [hall, if_pos (isFence_iff.2 block.isContent_opener), span_front hinside hcloser]
  simp [Sheet.front, Block.lines]

end

/-- Nothing is lost or added by the cut. -/
theorem Cut.head_append_body {source : List Char} {cut : Cut} (h : Cut.ofSource source = .ok cut) :
    cut.head ++ cut.body = source := by
  have htext := Sheet.text_ofSource source
  generalize Sheet.ofSource source = sheet at htext
  subst htext
  rcases sheet.lines_cases with
    hnone | ⟨opener, rest, hlines, hopener, hrest⟩ | ⟨block, rest, hlines⟩
  · rw [Cut.ofSource_of_no_block sheet hnone] at h
    cases h
    rfl
  · rw [Cut.ofSource_of_unclosed sheet hlines hopener hrest] at h
    cases h
  · rw [Cut.ofSource_of_block sheet hlines] at h
    cases h
    rw [Sheet.text, hlines, List.flatten_append, List.append_assoc]

end Folio.Frontmatter
