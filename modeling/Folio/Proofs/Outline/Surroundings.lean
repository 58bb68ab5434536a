import Folio.Proofs.Fence.Segmentation
import Folio.Proofs.Outline.Text

/-!
# Outlines of what surrounds code

A complete fenced block in no container changes nothing of the outline around it: between whole
lines that leave no fence open and any other text, the outline is that of the two.  Where no line
opens a fence, the outline lists the lines that are headings of the second to the fourth level, and
nothing else.
-/

namespace Folio

open Folio.Text

/-! ## Complete blocks -/

namespace Fence

/-- The lines of a complete fenced block in no container: one that opens a fence, others that do not
close it, and one that does. -/
structure FencedLines where
  fence : FenceLine
  opens : fence.Opens
  opener : Line
  opener_text : stripEnd opener.written = fence.text
  interior : List Line
  staysOpen : ∀ line ∈ interior, ¬fence.ClosedBy (stripEnd line.written)
  closer : Line
  closes : fence.ClosedBy (stripEnd closer.written)

namespace FencedLines

variable (block : FencedLines)

/-- The block as it is written. -/
def written : List Char :=
  (block.opener :: (block.interior ++ [block.closer])).flatMap Line.written

theorem wholeLines_written : WholeLines block.written :=
  wholeLines_flatMap_written _

theorem lines_written : lines block.written = block.fence.text ::
    (block.interior.map (fun line => stripEnd line.written) ++
      [stripEnd block.closer.written]) := by
  rw [written, lines_flatMap_written, List.map_cons, List.map_append, List.map_singleton,
    block.opener_text]

theorem next_interior {line : List Char}
    (h : line ∈ block.interior.map fun line => stripEnd line.written) :
    block.fence.state.next line = block.fence.state := by
  obtain ⟨source, hsource, rfl⟩ := List.mem_map.1 h
  exact FenceLine.next_of_not_closedBy (block.staysOpen source hsource)

end FencedLines

end Fence

/-- A complete block writes no heading, and leaves no fence open. -/
theorem lineHeadings_fencedLines (block : Fence.FencedLines) (ls : List (List Char)) :
    lineHeadings {} (lines block.written ++ ls) = lineHeadings {} ls := by
  rw [block.lines_written, List.cons_append, List.append_assoc]
  exact lineHeadings_of_closed block.fence.inside_state (Fence.next_of_opens block.opens)
    (fun _ => block.next_interior) (Fence.FenceLine.next_of_closedBy block.closes) ls

/-! ## Heading lines -/

/-- A line that is a heading of the second to the fourth level: as many number signs, one space, a
text that ends in a visible character, and white space. -/
structure HeadingLine where
  level : Nat
  text : List Char
  blanks : List Char
  two_le_level : 2 ≤ level
  level_le_four : level ≤ 4
  visible_getLast : ∃ c ∈ text.getLast?, isBlank c = false
  isBlank_of_mem : ∀ c ∈ blanks, isBlank c

namespace HeadingLine

variable (heading : HeadingLine)

/-- The line as it is written, without its end. -/
def line : List Char :=
  List.replicate heading.level '#' ++ ' ' :: (heading.text ++ heading.blanks)

/-- What the line contributes to an outline. -/
def entry : Heading where
  level := heading.level
  text := String.ofList heading.text
  href := "#" ++ slug (String.ofList heading.text)

end HeadingLine

namespace HeadingLine

variable (heading : HeadingLine)

/-- The white space at the end of a heading is trimmed, and nothing else is. -/
theorem trimEnd_append : trimEnd (heading.text ++ heading.blanks) = heading.text := by
  obtain ⟨c, hlast, hvisible⟩ := heading.visible_getLast
  rw [trimEnd, dropEndWhile_append heading.isBlank_of_mem, dropEndWhile_eq_self_iff]
  intro d hd
  rw [hlast] at hd
  cases hd
  exact hvisible

theorem text_ne_nil : heading.text ≠ [] := by
  obtain ⟨c, hlast, -⟩ := heading.visible_getLast
  rintro htext
  rw [htext] at hlast
  cases hlast

theorem lineHeading?_line : lineHeading? heading.line = some heading.entry := by
  rw [line, lineHeading?_marks, heading.trimEnd_append]
  simp only [heading.two_le_level, heading.level_le_four, List.isEmpty_eq_false_iff.2
    heading.text_ne_nil, decide_true, Bool.not_false, Bool.and_self, if_true]
  rfl

/-- The heading with other white space behind it. -/
def withBlanks (blanks : List Char) (h : ∀ c ∈ blanks, isBlank c) : HeadingLine :=
  { heading with blanks, isBlank_of_mem := h }

end HeadingLine

/-- What a line is if it writes a heading. -/
theorem exists_headingLine {line : List Char} {entry : Heading}
    (h : lineHeading? line = some entry) :
    ∃ heading : HeadingLine, heading.line = line ∧ heading.entry = entry := by
  have hcut := List.takeWhile_append_dropWhile (p := (· == '#')) (l := line)
  have hmarks : line.takeWhile (· == '#') =
      List.replicate (line.takeWhile (· == '#')).length '#' :=
    List.eq_replicate_of_mem fun c hc => by simpa using List.mem_takeWhile_imp hc
  rw [lineHeading?] at h
  dsimp only at h
  split at h
  · rename_i rest hrest
    split at h
    · rename_i hlevel
      cases h
      simp only [Bool.and_eq_true, decide_eq_true_eq, Bool.not_eq_true', List.isEmpty_eq_false_iff]
        at hlevel
      obtain ⟨⟨htwo, hfour⟩, hne⟩ := hlevel
      refine ⟨{
        level := _
        text := trimEnd rest
        blanks := rest.rtakeWhile isBlank
        two_le_level := htwo
        level_le_four := hfour
        visible_getLast := ?_
        isBlank_of_mem := fun c hc => List.mem_rtakeWhile_imp hc }, ?_, rfl⟩
      · have hlast := List.getLast?_eq_getLast_of_ne_nil hne
        exact ⟨_, hlast, getLast?_dropEndWhile rest _ hlast⟩
      · show List.replicate _ '#' ++ ' ' :: (dropEndWhile isBlank rest ++ rest.rtakeWhile isBlank) =
          line
        rw [dropEndWhile_append_rtakeWhile, ← hmarks, ← hrest, hcut]
    · cases h
  · cases h

/-- A line writes just the heading that it is; carriage returns at its end belong to the white
space. -/
theorem lineHeading?_eq_some_iff {line : List Char} {entry : Heading} :
    lineHeading? (dropEndWhile (· == '\r') line) = some entry ↔
      ∃ heading : HeadingLine, heading.line = line ∧ heading.entry = entry := by
  constructor
  · intro h
    obtain ⟨heading, hline, rfl⟩ := exists_headingLine h
    have hreturns : ∀ c ∈ line.rtakeWhile (· == '\r'), isBlank c := by
      intro c hc
      have heq := List.mem_rtakeWhile_imp hc
      rw [beq_iff_eq] at heq
      rw [heq]
      rfl
    refine ⟨heading.withBlanks (heading.blanks ++ line.rtakeWhile (· == '\r'))
      (List.forall_mem_append.2 ⟨heading.isBlank_of_mem, hreturns⟩), ?_, rfl⟩
    conv_rhs => rw [← dropEndWhile_append_rtakeWhile (p := (· == '\r')) line, ← hline]
    simp [HeadingLine.line, HeadingLine.withBlanks]
  · rintro ⟨heading, rfl, rfl⟩
    obtain ⟨c, hlast, hvisible⟩ := heading.visible_getLast
    -- The returns that are dropped stand behind the last visible character.
    have hblanks : ∀ c ∈ dropEndWhile (· == '\r') heading.blanks, isBlank c := fun c hc =>
      heading.isBlank_of_mem c ((sublist_dropEndWhile _).subset hc)
    have hfront : ∀ d ∈ (List.replicate heading.level '#' ++ ' ' :: heading.text).getLast?,
        (d == '\r') = false := by
      intro d hd
      have hc : c = d := by
        simpa [List.getLast?_append, List.getLast?_cons, Option.mem_def.1 hlast] using hd
      rw [← hc, beq_eq_false_iff_ne]
      rintro rfl
      cases hvisible
    have hline : dropEndWhile (· == '\r') heading.line = (heading.withBlanks _ hblanks).line := by
      have hcut := dropEndWhile_append_of_getLast? hfront heading.blanks
      simpa [HeadingLine.line, HeadingLine.withBlanks] using hcut
    rw [hline, HeadingLine.lineHeading?_line]
    rfl

/-- The line is a heading of the second to the fourth level. -/
def WritesHeading (line : List Char) : Prop :=
  ∃ heading : HeadingLine, heading.line = line

/-- Whether a line is a heading can be read off it. -/
instance (line : List Char) : Decidable (WritesHeading line) :=
  decidable_of_iff ((lineHeading? (dropEndWhile (· == '\r') line)).isSome) <| by
    simp only [Option.isSome_iff_exists, lineHeading?_eq_some_iff]
    exact ⟨fun ⟨_, heading, hline, _⟩ => ⟨heading, hline⟩,
      fun ⟨heading, hline⟩ => ⟨_, heading, hline, rfl⟩⟩

/-! ## Texts without fences -/

/-- Where no line opens a fence, each line is read for itself. -/
theorem lineHeadings_of_not_opensFence {ls : List (List Char)}
    (h : ∀ line ∈ ls, ¬Fence.OpensFence line) : lineHeadings {} ls =
      ls.filterMap fun line => lineHeading? (dropEndWhile (· == '\r') line) := by
  induction ls with
  | nil => rfl
  | cons line ls ih =>
      rw [List.forall_mem_cons] at h
      have hnext := Fence.next_of_not_opensFence h.1
      simp only [lineHeadings, Fence.State.advance, hnext, Bool.or_false, Bool.false_eq_true,
        if_false, ih h.2, List.filterMap_cons]
      cases lineHeading? (dropEndWhile (· == '\r') line) <;> rfl

/-- The headings among the lines are what the lines contribute. -/
theorem exists_headingLines (ls : List (List Char)) : ∃ headings : List HeadingLine,
    ls.filter (fun line => WritesHeading line) = headings.map HeadingLine.line ∧
      (ls.filterMap fun line => lineHeading? (dropEndWhile (· == '\r') line)) =
        headings.map HeadingLine.entry := by
  induction ls with
  | nil => exact ⟨[], rfl, rfl⟩
  | cons line ls ih =>
      obtain ⟨headings, hlines, hentries⟩ := ih
      cases hread : lineHeading? (dropEndWhile (· == '\r') line) with
      | none =>
          have hnot : ¬WritesHeading line := by
            rintro ⟨heading, hline⟩
            rw [lineHeading?_eq_some_iff.2 ⟨heading, hline, rfl⟩] at hread
            cases hread
          refine ⟨headings, ?_, ?_⟩
          · rw [List.filter_cons_of_neg (by simpa using hnot), hlines]
          · rw [List.filterMap_cons, hread, hentries]
      | some entry =>
          obtain ⟨heading, rfl, rfl⟩ := lineHeading?_eq_some_iff.1 hread
          have hwrites : WritesHeading heading.line := ⟨heading, rfl⟩
          refine ⟨heading :: headings, ?_, ?_⟩
          · rw [List.filter_cons_of_pos (by simpa using hwrites), hlines, List.map_cons]
          · rw [List.filterMap_cons, hread, hentries, List.map_cons]

/-! ## Around fences -/

/-- Between whole lines that leave no fence open and any other text, a complete fenced block changes
nothing: the outline of the whole is that of the two, with the block or without it.  In a text none
of whose lines opens a fence, the outline has the entries of the lines that are headings of the
second to the fourth level, in order. -/
theorem textOutline_around_fences :
    (∀ before after : List Char, WholeLines before →
      (({} : Fence.State).scan (lines before)).inside = false →
      textOutline (String.ofList (before ++ after)) =
          textOutline (String.ofList before) ++ textOutline (String.ofList after) ∧
        ∀ block : Fence.FencedLines,
          textOutline (String.ofList (before ++ block.written ++ after)) =
          textOutline (String.ofList before) ++ textOutline (String.ofList after)) ∧
    ∀ body : String, (∀ line ∈ lines body.toList, ¬Fence.OpensFence line) →
      ∃ headings : List HeadingLine,
        (lines body.toList).filter (fun line => WritesHeading line) =
          headings.map HeadingLine.line ∧
          textOutline body = headings.map HeadingLine.entry := by
  refine ⟨fun before after hbefore hout => ?_, fun body hbody => ?_⟩
  · have hstate : ({} : Fence.State).scan (lines before) = {} := Fence.State.forgets_scan _ hout
    refine ⟨?_, fun block => ?_⟩
    · rw [textOutline_append hbefore, hstate, textOutline_ofList after]
    · rw [List.append_assoc, textOutline_append hbefore, hstate,
        lines_append block.wholeLines_written, lineHeadings_fencedLines, textOutline_ofList after]
  · obtain ⟨headings, hlines, hentries⟩ := exists_headingLines (lines body.toList)
    refine ⟨headings, hlines, ?_⟩
    rw [textOutline, lineHeadings_of_not_opensFence hbody, hentries]

/-- A block of tildes whose interior has a heading, a fence of the other character, one that is too
short, and one that is indented too far. -/
def tildeLines : Fence.FencedLines where
  fence := ⟨[' '], '~', 7, " md".toList, by simp, by decide, by decide, by decide, by decide⟩
  opens := by decide
  opener := ⟨" ~~~~~~~ md\r".toList, by decide⟩
  opener_text := by decide
  interior := [⟨"## inside".toList, by decide⟩, ⟨"\x60\x60\x60\x60\x60\x60\x60".toList, by decide⟩,
    ⟨"~~~~~~".toList, by decide⟩, ⟨"\t~~~~~~~".toList, by decide⟩]
  staysOpen := by decide
  closer := ⟨"~~~~~~~~ \r".toList, by decide⟩
  closes := by decide

theorem textOutline_around_tildeLines :
    WholeLines "## A  \r\n".toList ∧
      (({} : Fence.State).scan (lines "## A  \r\n".toList)).inside = false ∧
      textOutline (String.ofList ("## A  \r\n".toList ++ tildeLines.written ++ "### B".toList)) =
        [Heading.ofText 2 "A", Heading.ofText 3 "B"] := by
  have hwhole : WholeLines "## A  \r\n".toList := wholeLines_concat "## A  \r".toList
  have hout : (({} : Fence.State).scan (lines "## A  \r\n".toList)).inside = false := by decide
  refine ⟨hwhole, hout, ?_⟩
  rw [(textOutline_around_fences.1 _ "### B".toList hwhole hout).2 tildeLines]
  rfl

end Folio
