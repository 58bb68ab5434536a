import Folio.Proofs.Outline.FencedBlock

/-!
# Outlines of plain documents

A plain document is made of headings that are texts, of paragraphs on one line, and of fenced
blocks, with blank lines between them.  The outline that is read off its lines lists its headings of
the second to the fourth level.
-/

namespace Folio

open Folio.Text

/-! ## Items -/

/-- A heading that says a text, as the text stands. -/
structure PlainHeading where
  depth : Nat
  text : List Char
  one_le_depth : 1 ≤ depth
  depth_le_six : depth ≤ 6
  text_ne_nil : text ≠ []
  oneLine : '\n' ∉ text
  noReturn : '\r' ∉ text
  trimmed : trim text = text

/-- A line of a paragraph, which starts with a letter of the Latin alphabet. -/
structure ParagraphLine extends Line where
  letter : text.head?.any Char.isAlpha

/-- What plain documents are made of. -/
inductive PlainItem where
  | heading (heading : PlainHeading)
  | paragraph (line : ParagraphLine)
  | code (block : Fence.TopBlock)

namespace PlainItem

/-- An item as it is written. -/
def written : PlainItem → List Char
  | .heading h => List.replicate h.depth '#' ++ ' ' :: h.text ++ ['\n']
  | .paragraph line => line.written
  | .code block => block.source

/-- What an item is in an outline. -/
def listed? : PlainItem → Option Heading
  | .heading h =>
    if 2 ≤ h.depth ∧ h.depth ≤ 4 then some (Heading.ofText h.depth (String.ofList h.text)) else none
  | .paragraph _ => none
  | .code _ => none

end PlainItem

/-- A document of items with a blank line between any two of them. -/
def document (items : List PlainItem) : List Char :=
  ['\n'].intercalate (items.map PlainItem.written)

theorem document_cons_cons (item next : PlainItem) (items : List PlainItem) :
    document (item :: next :: items) = item.written ++ ['\n'] ++ document (next :: items) := by
  simp [document, List.intercalate]

theorem document_singleton (item : PlainItem) : document [item] = item.written := by
  simp [document, List.intercalate]

/-- The first item of a document. -/
theorem exists_document_cons (item : PlainItem) (items : List PlainItem) :
    ∃ rest, document (item :: items) = item.written ++ rest := by
  cases items with
  | nil => exact ⟨[], by rw [document_singleton, List.append_nil]⟩
  | cons next items => exact ⟨_, by rw [document_cons_cons, List.append_assoc]⟩

/-! ## The outline of the lines -/

/-- A line that is no fence, read outside of fences. -/
theorem lineHeadings_of_lineRun?_none {line : List Char} (h : Fence.lineRun? line = none)
    (ls : List (List Char)) : lineHeadings {} (line :: ls) =
      (lineHeading? (dropEndWhile (· == '\r') line)).toList ++ lineHeadings {} ls := by
  have hnext : ({} : Fence.State).next line = {} := Fence.State.next_of_lineRun?_none {} h
  simp only [lineHeadings, Fence.State.advance, hnext, Bool.or_false, Bool.false_eq_true, if_false]

/-- A blank line writes no heading. -/
theorem lineHeadings_blank (ls : List (List Char)) :
    lineHeadings {} ([] :: ls) = lineHeadings {} ls :=
  lineHeadings_of_lineRun?_none rfl ls

namespace PlainHeading

variable (heading : PlainHeading)

/-- The line of a heading, without its end. -/
def line : List Char :=
  List.replicate heading.depth '#' ++ ' ' :: heading.text

theorem lines_written : lines (heading.line ++ ['\n']) = [heading.line] := by
  have hcut : '\n' ∉ heading.line := by simp [line, heading.oneLine]
  have hlast : heading.line.getLast? ≠ some '\r' := by
    intro hlast
    have hm := List.mem_of_mem_getLast? hlast
    simp [line, heading.noReturn] at hm
  rw [lines_line hcut, stripEnd_lf hlast]
  rfl

/-- The text of a heading has no white space at its end. -/
theorem trimEnd_text : trimEnd heading.text = heading.text := by
  have htrim : trimEnd (trim heading.text) = trim heading.text := by
    rw [trimEnd, trim, dropBothWhile, dropEndWhile_eq_rdropWhile, dropEndWhile_eq_rdropWhile,
      List.rdropWhile_idempotent]
  rw [← heading.trimmed, htrim]

/-- What the line of a heading writes. -/
theorem lineHeading?_line :
    lineHeading? (dropEndWhile (· == '\r') heading.line) = (PlainItem.heading heading).listed? := by
  have hreturn : dropEndWhile (· == '\r') heading.line = heading.line := by
    rw [dropEndWhile_eq_self_iff]
    intro c hc
    have hm := List.mem_of_mem_getLast? hc
    rw [beq_eq_false_iff_ne]
    rintro rfl
    simp [line, heading.noReturn] at hm
  have hne : heading.text.isEmpty = false := by simpa using heading.text_ne_nil
  rw [hreturn, line, lineHeading?_marks]
  simp [heading.trimEnd_text, hne, PlainItem.listed?]

theorem lineRun?_line : Fence.lineRun? heading.line = none := by
  obtain ⟨n, hn⟩ : ∃ n, heading.depth = n + 1 :=
    ⟨heading.depth - 1, by have hpos := heading.one_le_depth; omega⟩
  rw [line, hn, List.replicate_succ]
  exact Fence.lineRun?_cons rfl rfl _

end PlainHeading

namespace ParagraphLine

variable (line : ParagraphLine)

/-- A letter indents nothing, starts no fence and marks no heading. -/
theorem exists_text : ∃ c rest, line.text = c :: rest ∧ isIndent c = false ∧
    Fence.isMarker c = false ∧ c ≠ '#' ∧ c ≠ '\r' := by
  have hletter := line.letter
  cases htext : line.text with
  | nil =>
      rw [htext] at hletter
      cases hletter
  | cons c rest =>
      rw [htext, List.head?_cons, Option.any_some] at hletter
      have hother {d : Char} (hd : d.isAlpha = false) : c ≠ d := by
        rintro rfl
        rw [hd] at hletter
        cases hletter
      refine ⟨c, rest, rfl, ?_, ?_, hother (by decide), hother (by decide)⟩
      · rw [Bool.eq_false_iff, ne_eq, isIndent_iff, not_or]
        exact ⟨hother (by decide), hother (by decide)⟩
      · rw [Bool.eq_false_iff, ne_eq, Fence.isMarker_iff, not_or]
        exact ⟨hother (by decide), hother (by decide)⟩

/-- A paragraph writes no heading. -/
theorem lineHeadings_written (ls : List (List Char)) :
    lineHeadings {} (lines line.written ++ ls) = lineHeadings {} ls := by
  obtain ⟨c, rest, htext, hindent, hmarker, hmark, hreturn⟩ := line.exists_text
  obtain ⟨tail, htail⟩ := exists_stripEnd_concat hreturn [] rest
  have hline : lines line.written = [c :: tail] := by
    have hcut : lines (line.text ++ ['\n']) = [stripEnd (line.text ++ ['\n'])] :=
      lines_line line.oneLine []
    rw [Line.written, hcut, htext]
    exact congrArg (fun l => [l]) htail
  have hnone := lineHeading?_of_head hmark hreturn tail
  rw [hline, List.singleton_append,
    lineHeadings_of_lineRun?_none (Fence.lineRun?_cons hindent hmarker tail), hnone]
  rfl

end ParagraphLine

theorem PlainItem.wholeLines_written (item : PlainItem) : WholeLines item.written := by
  cases item with
  | heading heading => exact wholeLines_concat _
  | paragraph line => exact wholeLines_concat _
  | code block => exact block.wholeLines_source

/-- What an item writes into the outline of the lines. -/
theorem PlainItem.lineHeadings_written (item : PlainItem) (ls : List (List Char)) :
    lineHeadings {} (lines item.written ++ ls) = item.listed?.toList ++ lineHeadings {} ls := by
  cases item with
  | heading heading =>
      have hlines : lines (heading.line ++ ['\n']) = [heading.line] := heading.lines_written
      have hwritten : (PlainItem.heading heading).written = heading.line ++ ['\n'] := rfl
      rw [hwritten, hlines, List.singleton_append,
        lineHeadings_of_lineRun?_none heading.lineRun?_line, heading.lineHeading?_line]
  | paragraph line => exact line.lineHeadings_written ls
  | code block => exact lineHeadings_topBlock block ls

/-- The outline of the lines of a plain document lists its headings. -/
theorem textOutline_document (items : List PlainItem) :
    textOutline (String.ofList (document items)) = items.filterMap PlainItem.listed? := by
  rw [textOutline_ofList]
  induction items with
  | nil => rfl
  | cons item items ih =>
      rw [List.filterMap_cons]
      cases items with
      | nil =>
          have hitem := item.lineHeadings_written []
          rw [List.append_nil] at hitem
          rw [document_singleton, hitem]
          cases item.listed? <;> rfl
      | cons next items =>
          have hblank : lines ['\n'] = [[]] := rfl
          have hwhole : WholeLines ['\n'] := wholeLines_concat []
          rw [document_cons_cons, List.append_assoc, lines_append item.wholeLines_written,
            lines_append hwhole, hblank, item.lineHeadings_written,
            List.singleton_append, lineHeadings_blank, ih]
          cases item.listed? <;> rfl

end Folio
