import Folio.Proofs.Fence.Quoted
import Folio.Proofs.Fence.Scan

/-!
# Two answers to one question

Whether a line closes the open fence is asked by the scanner, which reads lines one after the other,
and by the cutter, which looks for the fence at the end of a block.  Both want the same character,
no fewer of them, and nothing but white space behind.  The scanner also wants the line to be
indented by at most three columns, and the cutter does not mind: they agree on every last line but
the closing fences that are indented further.
-/

namespace Folio.Fence

open Folio.Text

/-! ## Closing fences -/

/-- The columns that the spaces and tabs at the start of a line reach. -/
def columns (line : List Char) : Nat :=
  (indentFrom 0 line).1

/-- A line is a fence that closes the open one, however far it is indented. -/
def State.ClosedBy (state : State) (line : List Char) : Prop :=
  ∃ run, run? (line.dropWhile isIndent) = some run ∧ run.closes state

/-- Behind the columns stands the line without its spaces and tabs. -/
theorem indentFrom_snd (column : Nat) (line : List Char) :
    (indentFrom column line).2 = line.dropWhile isIndent := by
  fun_induction indentFrom column line with
  | case1 column line ih => rw [ih]; rfl
  | case2 column line ih => rw [ih]; rfl
  | case3 column line hspace htab =>
      cases line with
      | nil => rfl
      | cons c line =>
          have hc : isIndent c = false := by
            rw [Bool.eq_false_iff, ne_eq, isIndent_iff]
            rintro (rfl | rfl)
            · exact hspace line rfl
            · exact htab line rfl
          rw [List.dropWhile_cons_of_neg (by simp [hc])]

theorem lineRun?_eq (line : List Char) : lineRun? line =
    if columns line ≤ 3 then (run? (line.dropWhile isIndent)).map fun run => (columns line, run)
    else none := by
  rw [← indentFrom_snd 0 line]
  rfl

/-! ## The scanner -/

/-- A line leaves an open fence exactly if it closes it and is indented by at most three columns. -/
theorem State.next_leaves_iff {state : State} (h : state.inside) (line : List Char) :
    (state.next line).inside = false ↔ columns line ≤ 3 ∧ state.ClosedBy line := by
  unfold State.next
  rw [lineRun?_eq]
  by_cases hcolumns : columns line ≤ 3
  · rw [if_pos hcolumns]
    cases hrun : run? (line.dropWhile isIndent) with
    | none => simp [ClosedBy, h, hrun]
    | some run =>
        simp only [Option.map_some, h, if_true]
        by_cases hcloses : run.closes state
        · simp [ClosedBy, hcolumns, hrun, hcloses]
        · simp [ClosedBy, h, hrun, hcloses]
  · rw [if_neg hcolumns]
    simp [h, hcolumns]

/-- A line that does not leave an open fence leaves the state as it was. -/
theorem State.next_of_inside {state : State} (h : state.inside) {line : List Char}
    (hnext : (state.next line).inside) : state.next line = state := by
  unfold State.next at hnext ⊢
  split
  · rfl
  · rename_i columns run hrun
    simp only [hrun, h, if_true] at hnext ⊢
    split
    · rename_i hcloses
      rw [if_pos hcloses] at hnext
      cases hnext
    · rfl

theorem State.scan_of_inside {state : State} (h : state.inside) {ls : List (List Char)}
    (hls : ∀ line ∈ ls, (state.next line).inside) : state.scan ls = state := by
  induction ls with
  | nil => rfl
  | cons line ls ih =>
      rw [List.forall_mem_cons] at hls
      rw [State.scan, List.foldl_cons, State.next_of_inside h hls.1]
      exact ih hls.2

/-- A line that opens a fence starts with the run that is remembered. -/
theorem exists_run_of_opens {line : List Char} (h : (({} : State).next line).inside) :
    ∃ run, run? (line.dropWhile isIndent) = some run ∧ ({} : State).next line =
      { inside := true, marker := some run.marker, indent := columns line,
        length := run.length } := by
  unfold State.next at h ⊢
  rw [lineRun?_eq] at h ⊢
  by_cases hcolumns : columns line ≤ 3
  · rw [if_pos hcolumns] at h ⊢
    cases hrun : run? (line.dropWhile isIndent) with
    | none =>
        rw [hrun] at h
        cases h
    | some run =>
        simp only [hrun, Option.map_some, Bool.false_eq_true, if_false] at h ⊢
        split at h
        · rename_i hopens
          exact ⟨run, rfl, if_pos hopens⟩
        · cases h
  · rw [if_neg hcolumns] at h
    cases h

/-! ## Line ends behind a fence -/

theorem isMarker_of_isReturn {c : Char} (h : isReturn c) : isMarker c = false := by
  rcases isReturn_iff.1 h with rfl | rfl <;> rfl

section

variable {tail : List Char} (htail : ∀ c ∈ tail, isReturn c)
include htail

/-- Line ends behind a line are behind its fence. -/
theorem run?_append_returns (line : List Char) : run? (line ++ tail) =
    (run? line).map fun run => { run with rest := run.rest ++ tail } := by
  cases line with
  | nil =>
      cases tail with
      | nil => rfl
      | cons c tail =>
          have hc : isMarker c = false := isMarker_of_isReturn (htail c List.mem_cons_self)
          simp [run?, hc]
  | cons c line =>
      rw [List.cons_append, run?, run?]
      by_cases hmarker : isMarker c
      · have hother : ∀ a ∈ tail, (a == c) = false := by
          intro a ha
          rw [beq_eq_false_iff_ne]
          rintro rfl
          rw [isMarker_of_isReturn (htail a ha)] at hmarker
          cases hmarker
        rw [if_pos hmarker, if_pos hmarker, takeWhile_append_back hother,
          dropWhile_append_back hother]
        dsimp only
        split <;> rfl
      · rw [if_neg hmarker, if_neg hmarker]
        rfl

/-- Line ends behind a line do not matter to what it closes. -/
theorem State.closedBy_append_returns (state : State) (line : List Char) :
    state.ClosedBy (line ++ tail) ↔ state.ClosedBy line := by
  have hindent : ∀ c ∈ tail, isIndent c = false := fun c hc => isIndent_of_isReturn (htail c hc)
  have hblank : ∀ c ∈ tail, isBlank c := fun c hc => isBlank_of_isReturn (htail c hc)
  have hcloses : ∀ run : Run, Run.closes { run with rest := run.rest ++ tail } state =
      run.closes state := by
    intro run
    have htrim : (trim (run.rest ++ tail)).isEmpty = (trim run.rest).isEmpty := by
      rw [Bool.eq_iff_iff, List.isEmpty_iff, List.isEmpty_iff, trim_eq_nil_iff, trim_eq_nil_iff,
        List.forall_mem_append, and_iff_left hblank]
    simp only [Run.closes, htrim]
  unfold ClosedBy
  rw [dropWhile_append_back hindent, run?_append_returns htail]
  cases run? (line.dropWhile isIndent) with
  | none => simp
  | some run => simp [hcloses]

end

/-! ## The cutter -/

/-- Which fence a line closes depends on the character and the length of the open one. -/
theorem State.closedBy_congr {state other : State} (hmarker : state.marker = other.marker)
    (hlength : state.length = other.length) (line : List Char) :
    state.ClosedBy line ↔ other.ClosedBy line := by
  unfold ClosedBy Run.closes
  rw [hmarker, hlength]

/-- Of the end of a block the line ends behind its last line are dropped. -/
theorem dropEndWhile_block {last : List Char} (hvisible : ∃ c ∈ last, isReturn c = false)
    (opener before : List Char) : dropEndWhile isReturn (opener ++ '\n' :: (before ++ last)) =
      opener ++ '\n' :: (before ++ dropEndWhile isReturn last) := by
  have hstays : dropEndWhile isReturn last ≠ [] := by
    obtain ⟨c, hm, hc⟩ := hvisible
    intro hnone
    rw [dropEndWhile_eq_nil_iff.1 hnone c hm] at hc
    cases hc
  have hsplit : ∀ line : List Char, opener ++ '\n' :: (before ++ line) =
      (opener ++ '\n' :: before) ++ line := by
    intro line
    rw [List.append_assoc, List.cons_append]
  rw [hsplit, dropEndWhile_append_of_ne_nil hstays, ← hsplit]

/-- A block without a container is closed exactly if its last line closes the fence that its first
line opens. -/
theorem isSome_interior?_iff {opener last : List Char} {opening : Run} (middle : List Line)
    (hopener : '\n' ∉ opener) (hrun : run? (opener.dropWhile isIndent) = some opening)
    (hlast : '\n' ∉ last) (hvisible : ∃ c ∈ last, isReturn c = false) :
    (interior? (opener ++ '\n' :: (middle.flatMap Line.written ++ last)) 0).isSome ↔
      State.ClosedBy { marker := some opening.marker, length := opening.length } last := by
  -- The cutter drops the line ends behind the last line first; they do not matter to the fence.
  have hblock := dropEndWhile_block hvisible opener (middle.flatMap Line.written)
  obtain ⟨short, tail, hcut, rfl, htail⟩ : ∃ short tail, dropEndWhile isReturn last = short ∧
      last = short ++ tail ∧ ∀ c ∈ tail, isReturn c :=
    ⟨_, last.rtakeWhile isReturn, rfl, (dropEndWhile_append_rtakeWhile last).symm,
      fun c hc => List.mem_rtakeWhile_imp hc⟩
  rw [hcut] at hblock
  have hshort : '\n' ∉ short := fun hm => hlast (List.mem_append_left _ hm)
  have hline : ∀ c ∈ opener, (c != '\n') = true := by
    intro c hm
    rw [bne_iff_ne]
    rintro rfl
    exact hopener hm
  have hhead : ∀ a ∈ ('\n' :: (middle.flatMap Line.written ++ short)).head?,
      (a != '\n') = false := by simp
  have hwhole : WholeLines (middle.flatMap Line.written) := wholeLines_flatMap [] middle
  rw [State.closedBy_append_returns htail, interior?]
  simp only [hblock, takeWhile_front hline hhead, dropWhile_front hline hhead, hrun,
    Option.bind_eq_bind, Option.bind_some, splitLastLine_append hwhole hshort, stripContainer_zero]
  unfold State.ClosedBy
  cases run? (short.dropWhile isIndent) with
  | none => simp
  | some closing =>
      by_cases hcloses : closing.closes
          { inside := true, marker := some opening.marker, length := opening.length }
      · rw [Option.bind_some, if_pos hcloses]
        exact ⟨fun _ => ⟨closing, rfl, hcloses⟩, fun _ => rfl⟩
      · rw [Option.bind_some, if_neg hcloses]
        constructor
        · intro hnone
          cases hnone
        · rintro ⟨run, hrun, hruns⟩
          cases hrun
          exact (hcloses hruns).elim

/-! ## Both -/

/-- Take a block whose first line opens a fence, and in which no line in between closes it.  The
scanner leaves the fence at the last line exactly if that closes it and is indented by at most three
columns; the cutter finds the block closed exactly if the last line closes it.  So the two agree
unless the last line is a closing fence that is indented by four columns or more. -/
theorem scanner_agrees_iff {opener last : List Char} {middle : List Line}
    (hopener : '\n' ∉ opener) (hopens : (({} : State).advance opener).next.inside)
    (hmiddle : ∀ line ∈ middle,
      ((({} : State).advance opener).next.advance line.text).next.inside)
    (hlast : '\n' ∉ last) (hvisible : ∃ c ∈ last, isReturn c = false) :
    let opened := (({} : State).advance opener).next
    let reached := opened.scan (middle.map Line.text)
    let block := opener ++ '\n' :: (middle.flatMap Line.written ++ last)
    ((reached.advance last).next.inside = false ↔ columns last ≤ 3 ∧ opened.ClosedBy last) ∧
    ((interior? block 0).isSome ↔ opened.ClosedBy last) ∧
    (((interior? block 0).isSome ↔ (reached.advance last).next.inside = false) ↔
      ¬ (4 ≤ columns last ∧ opened.ClosedBy last)) := by
  intro opened reached block
  -- The last line meets the fence as it was opened.
  have hreached : reached = opened := by
    refine State.scan_of_inside hopens fun text hm => ?_
    obtain ⟨line, hline, rfl⟩ := List.mem_map.1 hm
    exact hmiddle line hline
  have hleaves : (reached.advance last).next.inside = false ↔
      columns last ≤ 3 ∧ opened.ClosedBy last := by
    rw [hreached]
    exact State.next_leaves_iff hopens last
  have hcut : (interior? block 0).isSome ↔ opened.ClosedBy last := by
    obtain ⟨run, hrun, hopened⟩ := exists_run_of_opens hopens
    have hopened : opened =
      { inside := true, marker := some run.marker, indent := columns opener,
        length := run.length } := hopened
    rw [isSome_interior?_iff middle hopener hrun hlast hvisible, hopened]
    exact State.closedBy_congr rfl rfl last
  have hshallow : columns last ≤ 3 ↔ ¬ 4 ≤ columns last := by omega
  refine ⟨hleaves, hcut, ?_⟩
  rw [hleaves, hcut, hshallow]
  tauto

/-- A block that a longer fence closes, indented by two columns and with white space behind. -/
theorem scanner_agrees_tildeBlock :
    let opened := (({} : State).advance "~~~ a".toList).next
    let reached := opened.scan ["~~".toList, "".toList]
    opened.inside ∧ columns "  ~~~~ ".toList = 2 ∧
    ((interior? "~~~ a\n~~\n\n  ~~~~ ".toList 0).isSome ↔
      (reached.advance "  ~~~~ ".toList).next.inside = false) ∧
    (interior? "~~~ a\n~~\n\n  ~~~~ ".toList 0).isSome := by
  intro opened reached
  have hmiddle : ∀ line ∈ [(⟨"~~".toList, by decide⟩ : Line), ⟨"".toList, by decide⟩],
      ((({} : State).advance "~~~ a".toList).next.advance line.text).next.inside := by decide
  obtain ⟨-, -, hboth⟩ := @scanner_agrees_iff "~~~ a".toList "  ~~~~ ".toList _ (by decide)
    (by decide) hmiddle (by decide) ⟨'~', by decide, rfl⟩
  have hshallow : ¬ (4 ≤ columns "  ~~~~ ".toList ∧ opened.ClosedBy "  ~~~~ ".toList) := by
    rintro ⟨hdeep, -⟩
    revert hdeep
    decide
  exact ⟨rfl, rfl, hboth.2 hshallow, rfl⟩

/-- The cutter finds a block closed by a fence that is indented by four columns, and the scanner
reads on in it. -/
theorem not_scanner_agrees_indentedFence :
    let opened := (({} : State).advance "\x60\x60\x60".toList).next
    let reached := (opened.advance "code".toList).next
    opened.inside ∧ reached.inside ∧
    interior? "\x60\x60\x60\ncode\n    \x60\x60\x60".toList 0 = some "code\n".toList ∧
    (reached.advance "    \x60\x60\x60".toList).next.inside := by
  decide

end Folio.Fence
