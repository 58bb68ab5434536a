import Folio.Proofs.Lower.FenceSource
import Folio.Proofs.Outline.Text

/-!
# Fences in list items

A list item that holds one fenced block closes its fence, and lowering reads it so.  The outline of
the text does not see the marker line open a fence, because the marker of the item stands before it.
What this does to the headings after the item depends on the width of the item: from four columns on
the closing line is indented too far to count, and below that it opens a fence that nothing closes,
unless a line of the interior has opened one for it.
-/

namespace Folio

open Folio.Text Folio.Lower

/-! ## The lines of an item -/

section

variable (marker : ItemMarker) (block : Fence.Block)

/-- The fence state in which the outline of a text reads the closing line of a block in an item,
when no fence is open before the item. -/
def itemScan : Fence.State :=
  ({} : Fence.State).scan (lines (block.interior.flatMap fun line =>
    List.replicate marker.width ' ' ++ line.written))

theorem written_item : written [.item marker] block = marker.opening ++ block.opener ++ '\n' ::
    ((block.interior.flatMap fun line => List.replicate marker.width ' ' ++ line.written) ++
      (List.replicate marker.width ' ' ++ block.closer)) := by
  simp [written, openings, continuations, Container.opening, Container.continuation,
    Fence.Block.written]

/-- The first line of the item starts with its marker. -/
theorem exists_firstLine :
    ∃ c rest, stripEnd (marker.opening ++ block.opener ++ ['\n']) = c :: rest ∧
    isIndent c = false ∧ Fence.isMarker c = false ∧ c ≠ '#' ∧ c ≠ '\r' := by
  obtain ⟨c, opening, hopening, hc⟩ := marker.exists_opening
  have hplain : isIndent c = false ∧ Fence.isMarker c = false ∧ c ≠ '#' ∧ c ≠ '\r' := by
    rcases hc with hdigit | rfl
    · refine ⟨isIndent_of_isDigit hdigit, Fence.isMarker_of_isDigit hdigit, ?_, ?_⟩
      · rintro rfl
        cases hdigit
      · rintro rfl
        cases hdigit
    · exact marker.sign_of (P := fun c => isIndent c = false ∧ Fence.isMarker c = false ∧
        c ≠ '#' ∧ c ≠ '\r') (by decide)
  obtain ⟨rest, hrest⟩ := exists_stripEnd_concat hplain.2.2.2 [] (opening ++ block.opener)
  rw [hopening]
  exact ⟨c, rest, hrest, hplain⟩

/-- The interior lines of the item are indented by its width. -/
theorem exists_interiorLine {line : List Char}
    (h : line ∈ lines (block.interior.flatMap fun line =>
      List.replicate marker.width ' ' ++ line.written)) :
    ∃ rest, line = List.replicate marker.width ' ' ++ rest := by
  obtain ⟨n, hn⟩ := marker.exists_width
  rw [lines_flatMap (by simp)] at h
  obtain ⟨source, -, rfl⟩ := List.mem_map.1 h
  obtain ⟨rest, hrest⟩ := exists_stripEnd_concat (c := ' ') (by decide)
    (List.replicate n ' ') source.text
  refine ⟨rest, ?_⟩
  rw [hn, List.replicate_succ', List.append_assoc _ _ rest, List.singleton_append, ← hrest]
  simp [Line.written]

/-- The closing line of a block, without its end. -/
theorem lines_closer {front lineEnd : List Char} (hfront : '\n' ∉ front)
    (hend : lineEnd = ['\n'] ∨ lineEnd = ['\r', '\n']) :
    lines (front ++ block.closer ++ lineEnd) = [front ++ block.closer] := by
  have hcut : '\n' ∉ front ++ block.closer := by simp [hfront, block.newline_notMem_closer]
  rcases hend with rfl | rfl
  · obtain ⟨init, c, hcloser, hc⟩ := block.exists_closer
    have hlast : (front ++ block.closer).getLast? ≠ some '\r' := by
      rw [hcloser, ← List.append_assoc, List.getLast?_concat]
      rintro ⟨⟩
      cases hc
    rw [lines_line hcut, stripEnd_lf hlast]
    rfl
  · have hreturn : '\n' ∉ front ++ block.closer ++ ['\r'] := by
      rw [List.mem_append, not_or]
      exact ⟨hcut, by decide⟩
    have hline := lines_line hreturn []
    rw [List.append_assoc _ ['\r'] ['\n']] at hline
    exact hline.trans (congrArg (· :: []) (stripEnd_crlf _))

/-- The lines of an item: its first line, the interior, and the closing line. -/
theorem lines_item {lineEnd : List Char} (hend : lineEnd = ['\n'] ∨ lineEnd = ['\r', '\n']) :
    lines (written [.item marker] block ++ lineEnd) =
      stripEnd (marker.opening ++ block.opener ++ ['\n']) ::
        (lines (block.interior.flatMap fun line =>
            List.replicate marker.width ' ' ++ line.written) ++
          [List.replicate marker.width ' ' ++ block.closer]) := by
  have hfirst : '\n' ∉ marker.opening ++ block.opener := by
    simp [marker.inline_opening.newline_notMem, block.newline_notMem_opener]
  have hindent : '\n' ∉ List.replicate marker.width ' ' := by simp
  rw [written_item, List.append_assoc _ _ lineEnd, List.cons_append, lines_line hfirst,
    List.append_assoc _ _ lineEnd, lines_append (wholeLines_flatMap _ _),
    lines_closer block hindent hend]

theorem wholeLines_item {lineEnd : List Char} (hend : lineEnd = ['\n'] ∨ lineEnd = ['\r', '\n']) :
    WholeLines (written [.item marker] block ++ lineEnd) := by
  rcases hend with rfl | rfl
  · exact wholeLines_concat _
  · exact Or.inr ⟨written [.item marker] block ++ ['\r'], by simp⟩

/-- An item writes no heading. -/
theorem lineHeadings_item {lineEnd : List Char} (hend : lineEnd = ['\n'] ∨ lineEnd = ['\r', '\n'])
    (state : Fence.State) :
    lineHeadings state (lines (written [.item marker] block ++ lineEnd)) = [] := by
  have hspace (rest : List Char) : ∃ c rest', List.replicate marker.width ' ' ++ rest = c :: rest' ∧
      c ≠ '#' ∧ c ≠ '\r' := by
    obtain ⟨n, hn⟩ := marker.exists_width
    rw [hn]
    exact ⟨' ', List.replicate n ' ' ++ rest, rfl, by decide⟩
  rw [lines_item marker block hend]
  refine lineHeadings_eq_nil ?_ state
  rw [List.forall_mem_cons, List.forall_mem_append, List.forall_mem_singleton]
  refine ⟨?_, fun line hm => ?_, hspace _⟩
  · obtain ⟨c, rest, hrest, -, -, hmark, hreturn⟩ := exists_firstLine marker block
    exact ⟨c, rest, hrest, hmark, hreturn⟩
  · obtain ⟨rest, rfl⟩ := exists_interiorLine marker block hm
    exact hspace rest

/-- The fence state after an item, when no fence is open before it. -/
def afterItem : Fence.State :=
  (itemScan marker block).next (List.replicate marker.width ' ' ++ block.closer)

theorem forgets_afterItem : (afterItem marker block).Forgets :=
  (Fence.State.forgets_scan _).next _

theorem scan_item {lineEnd : List Char} (hend : lineEnd = ['\n'] ∨ lineEnd = ['\r', '\n']) :
    ({} : Fence.State).scan (lines (written [.item marker] block ++ lineEnd)) =
      afterItem marker block := by
  obtain ⟨c, rest, hrest, hindent, hmarker, -⟩ := exists_firstLine marker block
  rw [lines_item marker block hend, hrest, Fence.State.scan, List.foldl_cons, List.foldl_append,
    Fence.State.next_of_lineRun?_none _ (Fence.lineRun?_cons hindent hmarker rest)]
  rfl

/-- No line of a wide item counts as a fence. -/
theorem itemScan_of_four_le (h : 4 ≤ marker.width) : itemScan marker block = {} := by
  refine Fence.State.scan_of_lineRun?_none {} fun line hm => ?_
  obtain ⟨rest, rfl⟩ := exists_interiorLine marker block hm
  exact Fence.lineRun?_of_four_le h rest

/-- The closing line of an item leaves no fence open if it is indented too far to count, or if a
fence is open that it closes. -/
theorem inside_afterItem_iff (hindent : block.closeIndent = 0) :
    (afterItem marker block).inside = false ↔
      4 ≤ marker.width ∨ (itemScan marker block).inside ∧
        (itemScan marker block).marker = some block.marker ∧
        (itemScan marker block).length ≤ block.closeLength := by
  unfold afterItem
  by_cases hwide : 4 ≤ marker.width
  · -- No line of the item counts, its closing line included.
    rw [Fence.State.next_of_lineRun?_none _ (Fence.lineRun?_of_four_le hwide _),
      itemScan_of_four_le marker block hwide]
    simp [hwide]
  · have hcolumns : marker.width + block.closeIndent ≤ 3 := by omega
    rw [Fence.State.next, block.lineRun?_closer hcolumns, or_iff_right hwide,
      ← block.closes_iff (itemScan marker block)]
    -- Outside of fences the closing line opens one.
    by_cases hinside : (itemScan marker block).inside
    · by_cases hcloses : Fence.Run.closes ⟨block.marker, block.closeLength, block.closeTail⟩
          (itemScan marker block)
      · simp [hinside, hcloses]
      · simp [hinside, hcloses]
    · simp [hinside, block.opens_closer]

/-! ## The outline around an item -/

/-- An item between whole lines that leave no fence open and any other text writes no heading, and
what follows it is read in the fence state that its closing line leaves. -/
theorem textOutline_item {lineEnd : List Char} (hend : lineEnd = ['\n'] ∨ lineEnd = ['\r', '\n'])
    {before : List Char} (hbefore : WholeLines before)
    (hout : (({} : Fence.State).scan (lines before)).inside = false) (after : List Char) :
    textOutline (String.ofList (before ++ (written [.item marker] block ++ lineEnd) ++ after)) =
      textOutline (String.ofList before) ++
        lineHeadings (afterItem marker block) (lines after) := by
  have hitem := wholeLines_item marker block hend
  rw [List.append_assoc, textOutline_append hbefore, lines_append hitem, lineHeadings_append,
    lineHeadings_item marker block hend, Fence.State.forgets_scan _ hout,
    scan_item marker block hend, List.nil_append]

end

/-- An item that holds one fenced block, with its closing line no further indented than the item,
stands between whole lines that leave no fence open and any other text.  The outline of the whole is
that of its parts, whatever follows the item, exactly if the item is at least four columns wide or,
as the scan sees it, its interior opens a fence that its closing line closes. -/
theorem textOutline_item_iff (marker : ItemMarker) (block : Fence.Block)
    (hindent : block.closeIndent = 0) {lineEnd : List Char}
    (hend : lineEnd = ['\n'] ∨ lineEnd = ['\r', '\n']) {before : List Char}
    (hbefore : WholeLines before)
    (hout : (({} : Fence.State).scan (lines before)).inside = false) :
    (∀ after, textOutline
      (String.ofList (before ++ (written [.item marker] block ++ lineEnd) ++ after)) =
        textOutline (String.ofList before) ++ textOutline (String.ofList after)) ↔
      4 ≤ marker.width ∨ (itemScan marker block).inside ∧
        (itemScan marker block).marker = some block.marker ∧
        (itemScan marker block).length ≤ block.closeLength := by
  rw [← inside_afterItem_iff marker block hindent]
  constructor
  · -- A heading behind the item is lost if the item leaves a fence open.
    intro h
    by_contra hinside
    rw [Bool.not_eq_false] at hinside
    have hlost := h ['#', '#', ' ', 'a']
    have hlines : lines ['#', '#', ' ', 'a'] = [['#', '#', ' ', 'a']] := rfl
    have hwritten : textOutline (String.ofList ['#', '#', ' ', 'a']) = [Heading.ofText 2 "a"] := rfl
    rw [textOutline_item marker block hend hbefore hout, List.append_cancel_left_eq, hlines,
      hwritten, lineHeadings_of_inside hinside] at hlost
    cases hlost
  · intro hinside after
    rw [textOutline_item marker block hend hbefore hout, forgets_afterItem marker block hinside,
      textOutline_ofList after]

/-- The marker of an item two columns wide. -/
def narrowMarker : ItemMarker := ⟨[], '-', 1, by decide, by decide, by decide⟩

/-- A block of one line, which is no fence. -/
def scriptBlock : Fence.Block where
  marker := '\x60'
  length := 3
  info := ⟨['j', 's'], by decide⟩
  interior := [⟨"const x = 1;".toList, by decide⟩]
  closeLength := 3
  marker_isMarker := by decide
  three_le_length := by decide
  info_head := by decide
  length_le_closeLength := by decide
  closeTail_isIndent := List.forall_mem_nil _

theorem textOutline_scriptBlock :
    scriptBlock.closeIndent = 0 ∧ WholeLines ['a', '\n'] ∧
      (({} : Fence.State).scan (lines ['a', '\n'])).inside = false ∧
      ¬ ∀ after, textOutline (String.ofList
          (['a', '\n'] ++ (written [.item narrowMarker] scriptBlock ++ ['\n']) ++ after)) =
        textOutline (String.ofList ['a', '\n']) ++ textOutline (String.ofList after) := by
  have hbefore : WholeLines ['a', '\n'] := wholeLines_concat ['a']
  have hout : (({} : Fence.State).scan (lines ['a', '\n'])).inside = false := by decide
  refine ⟨rfl, hbefore, hout, ?_⟩
  rw [textOutline_item_iff narrowMarker scriptBlock rfl (Or.inl rfl) hbefore hout]
  decide

/-- Not every closed fence in an item lets the headings behind it be seen. -/
theorem not_textOutline_item_append :
    ¬ ∀ (marker : ItemMarker) (block : Fence.Block) (before after : List Char),
      block.closeIndent = 0 → WholeLines before →
      (({} : Fence.State).scan (lines before)).inside = false →
      (∀ line ∈ block.interior, ∀ run, Fence.run? (line.text.dropWhile isIndent) = some run →
        ¬ run.closes { inside := true, marker := some block.marker, length := block.length }) →
      (Fence.interior? (block.written (List.replicate marker.width ' ')) marker.width).isSome →
      textOutline (String.ofList (before ++ (written [.item marker] block ++ ['\n']) ++ after)) =
        textOutline (String.ofList before) ++ textOutline (String.ofList after) := by
  intro h
  have hitem := h narrowMarker scriptBlock [] "## After\n".toList rfl wholeLines_nil rfl
    (by decide) (by decide)
  have hwhole : textOutline
      (String.ofList ([] ++ (written [.item narrowMarker] scriptBlock ++ ['\n']) ++
        "## After\n".toList)) = [] := by
    decide
  have hparts : textOutline (String.ofList []) ++ textOutline (String.ofList "## After\n".toList) =
      [Heading.ofText 2 "After"] := rfl
  rw [hwhole, hparts] at hitem
  cases hitem

end Folio
