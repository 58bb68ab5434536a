import Folio.Proofs.Outline.ListItem

/-!
# Fenced blocks between other lines

A fenced block that stands in no container is seen whole by the scan of the lines: its first line
opens a fence, no line of its interior closes it, and its last line does.  So it writes no heading,
whatever its interior looks like, and what follows it is read as if it were not there.
-/

namespace Folio

open Folio.Text

/-! ## Line ends -/

namespace Text

/-- The end of a line takes nothing from a front that does not end in a carriage return. -/
theorem stripEnd_front {front : List Char} (h : front.getLast? ≠ some '\r') (line : List Char) :
    stripEnd (front ++ line ++ ['\n']) = front ++ stripEnd (line ++ ['\n']) := by
  rcases List.eq_nil_or_concat line with rfl | ⟨init, c, rfl⟩
  · rw [List.append_nil, stripEnd_lf h]
    exact (List.append_nil front).symm
  · by_cases hc : c = '\r'
    · have hcut : init.concat c ++ ['\n'] = init ++ ['\r', '\n'] := by simp [hc]
      rw [List.append_assoc, hcut, ← List.append_assoc, stripEnd_crlf, stripEnd_crlf]
    · have hlast : (init.concat c).getLast? ≠ some '\r' := by simpa using hc
      have hlast' : (front ++ init.concat c).getLast? ≠ some '\r' := by simpa using hc
      rw [stripEnd_lf hlast, stripEnd_lf hlast']

/-- A line without its end starts the line. -/
theorem stripEnd_isPrefix (line : List Char) : stripEnd (line ++ ['\n']) <+: line := by
  rcases List.eq_nil_or_concat line with rfl | ⟨init, c, rfl⟩
  · exact List.nil_prefix
  · by_cases hc : c = '\r'
    · have hcut : init.concat c ++ ['\n'] = init ++ ['\r', '\n'] := by simp [hc]
      rw [hcut, stripEnd_crlf]
      exact ⟨[c], by simp⟩
    · have hlast : (init.concat c).getLast? ≠ some '\r' := by simpa using hc
      exact ⟨[], by rw [stripEnd_lf hlast, List.append_nil]⟩

end Text

/-! ## Open fences -/

namespace Fence

/-- A run opens a fence if it does so with more text after it. -/
theorem opens_of_append {marker : Char} {length : Nat} {info more : List Char}
    (h : Run.opens ⟨marker, length, info ++ more⟩) : Run.opens ⟨marker, length, info⟩ := by
  simp only [Run.opens, List.contains_append, Bool.not_or, Bool.or_eq_true, Bool.and_eq_true] at h ⊢
  exact h.imp_right And.left

/-- The line does not close the fence that is open. -/
def State.StaysOpen (state : State) (line : List Char) : Prop :=
  ∀ found ∈ lineRun? line, ¬ found.2.closes state

instance (state : State) (line : List Char) : Decidable (state.StaysOpen line) :=
  inferInstanceAs (Decidable (∀ found ∈ lineRun? line, ¬ found.2.closes state))

theorem State.StaysOpen.next_eq {state : State} (hin : state.inside) {line : List Char}
    (h : state.StaysOpen line) : state.next line = state := by
  rw [State.next]
  split
  · rfl
  · rename_i columns run hrun
    rw [if_pos hin, if_neg (h (columns, run) hrun)]

end Fence

/-! ## Blocks -/

namespace Fence

/-- A fenced block in no container, up to the end of its last line.  Both fences are indented by at
most three columns, what follows the first one lets it open, and no line of the interior closes
it. -/
structure TopBlock extends Block where
  indent : Nat := 0
  indent_le_three : indent ≤ 3
  closeIndent_le_three : closeIndent ≤ 3
  opens : Run.opens ⟨marker, length, info.text⟩
  staysOpen : ∀ line ∈ interior,
    State.StaysOpen { inside := true, marker := some marker, indent, length }
      (stripEnd line.written)

namespace TopBlock

variable (block : TopBlock)

/-- The block as it is written. -/
def source : List Char :=
  List.replicate block.indent ' ' ++ block.written [] ++ ['\n']

/-- The fence state within the block. -/
def opened : State :=
  { inside := true, marker := some block.marker, indent := block.indent, length := block.length }

/-- The line that opens the block, without its end. -/
def firstLine : List Char :=
  List.replicate block.indent ' ' ++ List.replicate block.length block.marker ++
    stripEnd (block.info.text ++ ['\n'])

theorem wholeLines_source : WholeLines block.source :=
  wholeLines_concat _

/-- What the opening fence is written with is no carriage return. -/
theorem getLast?_fence :
    (List.replicate block.indent ' ' ++ List.replicate block.length block.marker).getLast? ≠
      some '\r' := by
  have hmarker := (visible_of_isMarker block.marker_isMarker).2.2
  intro hlast
  rcases List.mem_append.1 (List.mem_of_mem_getLast? hlast) with hm | hm
  · cases List.eq_of_mem_replicate hm
  · exact hmarker (List.eq_of_mem_replicate hm).symm

/-- The lines of a block: its opening fence, the interior, and its closing fence. -/
theorem lines_source : lines block.source =
    block.firstLine :: (block.interior.map (fun line => stripEnd line.written) ++
      [block.closer]) := by
  have hopener : '\n' ∉ List.replicate block.indent ' ' ++ block.opener := by
    simp [block.newline_notMem_opener]
  have hsource : block.source = (List.replicate block.indent ' ' ++ block.opener) ++ '\n' ::
      (block.interior.flatMap Line.written ++ ([] ++ block.closer ++ ['\n'])) := by
    simp [source, Block.written]
  rw [hsource, lines_line hopener, lines_append (wholeLines_flatMap_written _),
    lines_flatMap_written, lines_closer block.toBlock (by simp) (Or.inl rfl), Block.opener,
    ← List.append_assoc, stripEnd_front block.getLast?_fence]
  rfl

/-- The first line of the block opens its fence. -/
theorem next_firstLine : ({} : State).next block.firstLine = block.opened := by
  unfold firstLine
  obtain ⟨returns, hinfo⟩ := stripEnd_isPrefix block.info.text
  generalize stripEnd (block.info.text ++ ['\n']) = info at hinfo ⊢
  have hhead : info.head? ≠ some block.marker := by
    intro hhead
    have hmarker := block.info_head
    rw [← hinfo, List.head?_append, hhead] at hmarker
    exact hmarker rfl
  have hopens : Run.opens ⟨block.marker, block.length, info⟩ := by
    have hopens := block.opens
    rw [← hinfo] at hopens
    exact opens_of_append hopens
  obtain ⟨rest, hrest⟩ := exists_run block.three_le_length block.marker info
  have hrun := run?_replicate block.marker_isMarker block.three_le_length hhead
  have hline : lineRun? (List.replicate block.indent ' ' ++
      (List.replicate block.length block.marker ++ info)) =
        some (block.indent, ⟨block.marker, block.length, info⟩) := by
    rw [lineRun?, indentFrom_replicate, hrest,
      indentFrom_cons (isIndent_of_isMarker block.marker_isMarker), ← hrest, Nat.zero_add]
    simp only [if_pos block.indent_le_three, hrun, Option.map_some]
  rw [List.append_assoc, State.next, hline]
  simp only [Bool.false_eq_true, if_false, hopens, if_true]
  rfl

/-- The last line of the block closes its fence. -/
theorem next_closer : block.opened.next block.closer = {} := by
  have hindent : 0 + block.closeIndent ≤ 3 := by
    have hle := block.closeIndent_le_three
    omega
  have hline := block.lineRun?_closer hindent
  have hcloses : Run.closes ⟨block.marker, block.closeLength, block.closeTail⟩ block.opened :=
    (block.closes_iff block.opened).2 ⟨rfl, block.length_le_closeLength⟩
  rw [List.replicate_zero, List.nil_append] at hline
  rw [State.next, hline]
  simp only [hcloses, if_true]
  rfl

end TopBlock

end Fence

/-- A fenced block writes no heading, and leaves no fence open. -/
theorem lineHeadings_topBlock (block : Fence.TopBlock) (ls : List (List Char)) :
    lineHeadings {} (lines block.source ++ ls) = lineHeadings {} ls := by
  have hin : block.opened.inside = true := rfl
  have hsame : ∀ line ∈ block.interior.map (fun line => stripEnd line.written),
      block.opened.next line = block.opened := by
    intro line hm
    obtain ⟨source, hsource, rfl⟩ := List.mem_map.1 hm
    exact (block.staysOpen source hsource).next_eq hin
  rw [block.lines_source, List.cons_append, List.append_assoc]
  exact lineHeadings_of_closed hin block.next_firstLine hsame block.next_closer ls

end Folio
