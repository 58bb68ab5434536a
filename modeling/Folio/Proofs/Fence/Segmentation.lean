import Folio.Proofs.Fence.Closing

/-!
# The greedy cut of a text into fences

Which lines belong to fences can be said without a state: take the first line that opens a fence,
with all lines up to the first one behind it that closes the fence, or to the end if none does; then
go on behind them.  The scanner finds just these lines, and the states it passes through are the one
outside of fences and those of the open fences.
-/

namespace Folio.Fence

open Folio.Text

/-! ## Lines with a fence -/

/-- The column that a space or a tab at a column reaches: tabs stop every four columns. -/
def columnBehind (column : Nat) (c : Char) : Nat :=
  if c = '\t' then (column / 4 + 1) * 4 else column + 1

/-- A line with a fence: spaces and tabs that reach the third column at most, a run of three or more
equal fence characters, and a rest with which the run does not go on. -/
structure FenceLine where
  blanks : List Char
  marker : Char
  length : Nat
  rest : List Char
  blank_cases : ∀ c ∈ blanks, c = ' ' ∨ c = '\t'
  indent_le_three : blanks.foldl columnBehind 0 ≤ 3
  marker_cases : marker = '\x60' ∨ marker = '~'
  three_le_length : 3 ≤ length
  rest_head : rest.head? ≠ some marker

namespace FenceLine

variable (fence : FenceLine)

/-- The line as it is written. -/
def text : List Char :=
  fence.blanks ++ (List.replicate fence.length fence.marker ++ fence.rest)

/-- The column that the fence starts at. -/
def indent : Nat :=
  fence.blanks.foldl columnBehind 0

/-- Behind a run of grave accents there are no more of them. -/
def Opens : Prop :=
  fence.marker = '\x60' → '\x60' ∉ fence.rest

/-- The line has a fence of the same character that is no shorter, with nothing but white space
behind. -/
def ClosedBy (line : List Char) : Prop :=
  ∃ closer : FenceLine, closer.text = line ∧ closer.marker = fence.marker ∧
    fence.length ≤ closer.length ∧ ∀ c ∈ closer.rest, isBlank c

/-- The state in which the fence is open. -/
def state : State :=
  { inside := true, marker := some fence.marker, indent := fence.indent, length := fence.length }

@[simp] theorem inside_state : fence.state.inside = true := rfl

@[simp] theorem marker_state : fence.state.marker = some fence.marker := rfl

@[simp] theorem length_state : fence.state.length = fence.length := rfl

end FenceLine

/-- The line opens a fence. -/
def OpensFence (line : List Char) : Prop :=
  ∃ fence : FenceLine, fence.text = line ∧ fence.Opens

/-! ## Reading a line -/

/-- The indent of a line is what its spaces and tabs reach. -/
theorem indentFrom_append {blanks rest : List Char} (hblanks : ∀ c ∈ blanks, c = ' ' ∨ c = '\t')
    (hrest : ∀ c ∈ rest.head?, isIndent c = false) (column : Nat) :
    indentFrom column (blanks ++ rest) = (blanks.foldl columnBehind column, rest) := by
  induction blanks generalizing column with
  | nil =>
      cases rest with
      | nil => rfl
      | cons c rest => exact indentFrom_cons (hrest c rfl) column rest
  | cons c blanks ih =>
      rw [List.forall_mem_cons] at hblanks
      obtain ⟨rfl | rfl, hblanks⟩ := hblanks
      · exact ih hblanks (column + 1)
      · have hstop : column + 4 - column % 4 = columnBehind column '\t' := by
          show _ = (column / 4 + 1) * 4
          omega
        rw [List.cons_append, indentFrom, hstop]
        exact ih hblanks _

/-- The spaces and tabs that a line is read with. -/
theorem exists_blanks (column : Nat) (line : List Char) :
    ∃ blanks, line = blanks ++ (indentFrom column line).2 ∧ (∀ c ∈ blanks, c = ' ' ∨ c = '\t') ∧
      (indentFrom column line).1 = blanks.foldl columnBehind column := by
  fun_induction indentFrom column line with
  | case1 column line ih =>
      obtain ⟨blanks, hline, hblanks, hcolumn⟩ := ih
      exact ⟨' ' :: blanks, congrArg (' ' :: ·) hline, List.forall_mem_cons.2 ⟨.inl rfl, hblanks⟩,
        hcolumn⟩
  | case2 column line ih =>
      obtain ⟨blanks, hline, hblanks, hcolumn⟩ := ih
      have hstop : columnBehind column '\t' = column + 4 - column % 4 := by
        show (column / 4 + 1) * 4 = _
        omega
      refine ⟨'\t' :: blanks, congrArg ('\t' :: ·) hline,
        List.forall_mem_cons.2 ⟨.inr rfl, hblanks⟩, ?_⟩
      rw [List.foldl_cons, hstop, hcolumn]
  | case3 column line => exact ⟨[], rfl, List.forall_mem_nil _, rfl⟩

/-- What a fence run is read from. -/
theorem run?_eq_some {line : List Char} {run : Run} (h : run? line = some run) :
    line = List.replicate run.length run.marker ++ run.rest ∧ isMarker run.marker ∧ 3 ≤ run.length ∧
      run.rest.head? ≠ some run.marker := by
  cases line with
  | nil => cases h
  | cons c line =>
      rw [run?] at h
      split at h
      · rename_i hmarker
        dsimp only at h
        split at h
        · rename_i hlength
          cases h
          refine ⟨?_, hmarker, hlength, ?_⟩
          · have hfront : line.takeWhile (· == c) =
                List.replicate (line.takeWhile (· == c)).length c :=
              List.eq_replicate_of_mem fun d hd => by simpa using List.mem_takeWhile_imp hd
            rw [List.replicate_succ, List.cons_append, ← hfront, List.takeWhile_append_dropWhile]
          · intro hhead
            have hstop := List.head?_dropWhile_not (· == c) line
            rw [hhead] at hstop
            simp at hstop
        · cases h
      · cases h

namespace FenceLine

/-- The scanner reads the fence of a line with a fence. -/
theorem lineRun?_text (fence : FenceLine) :
    lineRun? fence.text = some (fence.indent, ⟨fence.marker, fence.length, fence.rest⟩) := by
  have hmarker : isMarker fence.marker := isMarker_iff.2 fence.marker_cases
  obtain ⟨tail, htail⟩ := exists_run fence.three_le_length fence.marker fence.rest
  have hhead : ∀ c ∈ (List.replicate fence.length fence.marker ++ fence.rest).head?,
      isIndent c = false := by
    intro c hc
    rw [htail, List.head?_cons] at hc
    cases hc
    exact isIndent_of_isMarker hmarker
  have hindent : fence.blanks.foldl columnBehind 0 = fence.indent := rfl
  have hle : fence.indent ≤ 3 := fence.indent_le_three
  rw [lineRun?, text, indentFrom_append fence.blank_cases hhead, hindent]
  simp only [if_pos hle, run?_replicate hmarker fence.three_le_length fence.rest_head,
    Option.map_some]

theorem opens_iff (fence : FenceLine) :
    Run.opens ⟨fence.marker, fence.length, fence.rest⟩ ↔ fence.Opens := by
  simp [Run.opens, Opens, or_iff_not_imp_left]

end FenceLine

/-- Where the scanner reads a fence, there is one. -/
theorem exists_fenceLine {line : List Char} {found : Nat × Run} (h : lineRun? line = some found) :
    ∃ fence : FenceLine, fence.text = line := by
  obtain ⟨blanks, hline, hblanks, hcolumn⟩ := exists_blanks 0 line
  rw [lineRun?] at h
  dsimp only at h
  split at h
  · rename_i hle
    obtain ⟨run, hrun, -⟩ := Option.map_eq_some_iff.1 h
    obtain ⟨hrest, hmarker, hlength, hhead⟩ := run?_eq_some hrun
    refine ⟨⟨blanks, run.marker, run.length, run.rest, hblanks, hcolumn ▸ hle,
      isMarker_iff.1 hmarker, hlength, hhead⟩, ?_⟩
    rw [FenceLine.text, ← hrest, ← hline]
  · cases h

/-- A line has a fence, or the scanner reads none. -/
theorem fenceLine_cases (line : List Char) :
    (∃ fence : FenceLine, fence.text = line) ∨ lineRun? line = none := by
  cases h : lineRun? line with
  | none => exact .inr rfl
  | some found => exact .inl (exists_fenceLine h)

/-- Whether a line with a fence closes the open one can be told from its own fence. -/
theorem FenceLine.closedBy_text_iff (fence line : FenceLine) :
    fence.ClosedBy line.text ↔ Run.closes ⟨line.marker, line.length, line.rest⟩ fence.state := by
  have hblank : (trim line.rest).isEmpty ↔ ∀ c ∈ line.rest, isBlank c := by
    rw [List.isEmpty_iff, trim_eq_nil_iff]
  have hcloses : Run.closes ⟨line.marker, line.length, line.rest⟩ fence.state ↔
      line.marker = fence.marker ∧ fence.length ≤ line.length ∧ ∀ c ∈ line.rest, isBlank c := by
    rw [Run.closes, Bool.and_eq_true, Bool.and_eq_true, beq_iff_eq, decide_eq_true_eq, hblank,
      marker_state, length_state, Option.some_inj, and_assoc]
  rw [hcloses]
  constructor
  · rintro ⟨closer, htext, hsame⟩
    -- A line is read with one fence only.
    have hread := closer.lineRun?_text
    rw [htext, line.lineRun?_text] at hread
    simp only [Option.some_inj, Prod.mk.injEq, Run.mk.injEq] at hread
    obtain ⟨-, hmarker, hlength, hrest⟩ := hread
    rwa [hmarker, hlength, hrest]
  · exact fun h => ⟨line, rfl, h⟩

/-! ## Steps of the scanner -/

theorem next_of_opens {fence : FenceLine} (h : fence.Opens) :
    ({} : State).next fence.text = fence.state := by
  have hopens := fence.opens_iff.2 h
  rw [State.next, fence.lineRun?_text]
  simp only [Bool.false_eq_true, if_false, if_pos hopens]
  rfl

theorem next_of_not_opensFence {line : List Char} (h : ¬OpensFence line) :
    ({} : State).next line = {} := by
  rcases fenceLine_cases line with ⟨fence, rfl⟩ | hnone
  · have hopens : ¬Run.opens ⟨fence.marker, fence.length, fence.rest⟩ :=
      fun hopens => h ⟨fence, rfl, fence.opens_iff.1 hopens⟩
    rw [State.next, fence.lineRun?_text]
    simp only [Bool.false_eq_true, if_false, if_neg hopens]
  · exact State.next_of_lineRun?_none {} hnone

namespace FenceLine

variable {fence : FenceLine} {line : List Char}

theorem next_of_closedBy (h : fence.ClosedBy line) : fence.state.next line = {} := by
  obtain ⟨closer, rfl, -⟩ := id h
  rw [State.next, closer.lineRun?_text]
  simp only [inside_state, if_true, (fence.closedBy_text_iff closer).1 h]

theorem next_of_not_closedBy (h : ¬fence.ClosedBy line) : fence.state.next line = fence.state := by
  rcases fenceLine_cases line with ⟨found, rfl⟩ | hnone
  · rw [fence.closedBy_text_iff found] at h
    rw [State.next, found.lineRun?_text]
    simp only [inside_state, if_true, if_neg h]
  · exact fence.state.next_of_lineRun?_none hnone

end FenceLine

/-- What a line does to an open fence tells whether it closes it. -/
theorem FenceLine.next_leaves_iff {fence : FenceLine} {line : List Char} :
    (fence.state.next line).inside = false ↔ fence.ClosedBy line := by
  by_cases h : fence.ClosedBy line
  · simp [next_of_closedBy h, h]
  · simp [next_of_not_closedBy h, h]

/-- What a line does outside of fences tells whether it opens one. -/
theorem next_enters_iff {line : List Char} :
    (({} : State).next line).inside ↔ OpensFence line := by
  by_cases h : OpensFence line
  · obtain ⟨fence, rfl, hopens⟩ := id h
    simp [next_of_opens hopens, h]
  · simp [next_of_not_opensFence h, h]

instance (fence : FenceLine) : Decidable fence.Opens :=
  inferInstanceAs (Decidable (fence.marker = '\x60' → '\x60' ∉ fence.rest))

instance (fence : FenceLine) (line : List Char) : Decidable (fence.ClosedBy line) :=
  decidable_of_iff _ FenceLine.next_leaves_iff

instance (line : List Char) : Decidable (OpensFence line) :=
  decidable_of_iff _ next_enters_iff

/-! ## States -/

/-- Outside of fences nothing is remembered; inside of one its character, its length and its indent
are. -/
structure State.WellFormed (state : State) : Prop where
  outside : state.inside = false → state = {}
  inside : state.inside → ∃ marker, state.marker = some marker ∧ (marker = '\x60' ∨ marker = '~') ∧
    3 ≤ state.length ∧ state.indent ≤ 3

/-- The state is that outside of fences, or that in which a line leaves the fence it opens. -/
def State.Reachable (state : State) : Prop :=
  state = {} ∨ ∃ fence : FenceLine, fence.Opens ∧ state = fence.state

theorem State.Reachable.next {state : State} (h : state.Reachable) (line : List Char) :
    (state.next line).Reachable := by
  rcases h with rfl | ⟨fence, hopens, rfl⟩
  · by_cases hopener : OpensFence line
    · obtain ⟨fence, rfl, hopens⟩ := hopener
      exact .inr ⟨fence, hopens, next_of_opens hopens⟩
    · exact .inl (next_of_not_opensFence hopener)
  · by_cases hcloses : fence.ClosedBy line
    · exact .inl (FenceLine.next_of_closedBy hcloses)
    · exact .inr ⟨fence, hopens, FenceLine.next_of_not_closedBy hcloses⟩

theorem State.Reachable.advanceAll {state : State} (h : state.Reachable) (ls : List (List Char)) :
    ∀ outcome ∈ state.advanceAll ls, outcome.next.Reachable := by
  induction ls generalizing state with
  | nil => exact List.forall_mem_nil _
  | cons line ls ih => exact List.forall_mem_cons.2 ⟨h.next line, ih (h.next line)⟩

theorem State.Reachable.wellFormed {state : State} (h : state.Reachable) : state.WellFormed := by
  rcases h with rfl | ⟨fence, -, rfl⟩
  · exact { outside := fun _ => rfl, inside := nofun }
  · exact {
      outside := nofun
      inside := fun _ =>
        ⟨fence.marker, rfl, fence.marker_cases, fence.three_le_length, fence.indent_le_three⟩ }

/-! ## Marks -/

/-- For each line, whether the scanner takes it for a part of a fence. -/
def State.marks (state : State) (ls : List (List Char)) : List Bool :=
  (state.advanceAll ls).map Outcome.inFence

theorem State.marks_cons (state : State) (line : List Char) (ls : List (List Char)) :
    state.marks (line :: ls) =
      (state.inside || (state.next line).inside) :: (state.next line).marks ls := rfl

/-- Lines that open no fence are outside of fences. -/
theorem marks_outside {before : List (List Char)} (h : ∀ line ∈ before, ¬OpensFence line)
    (ls : List (List Char)) : ({} : State).marks (before ++ ls) =
      List.replicate before.length false ++ ({} : State).marks ls := by
  induction before with
  | nil => rfl
  | cons line before ih =>
      rw [List.forall_mem_cons] at h
      rw [List.cons_append, State.marks_cons, next_of_not_opensFence h.1, ih h.2]
      rfl

namespace FenceLine

variable {fence : FenceLine}

/-- Lines behind the one that opens a fence are inside as long as none closes it. -/
theorem marks_inside {inner : List (List Char)} (h : ∀ line ∈ inner, ¬fence.ClosedBy line)
    (ls : List (List Char)) : fence.state.marks (inner ++ ls) =
      List.replicate inner.length true ++ fence.state.marks ls := by
  induction inner with
  | nil => rfl
  | cons line inner ih =>
      rw [List.forall_mem_cons] at h
      rw [List.cons_append, State.marks_cons, next_of_not_closedBy h.1, ih h.2]
      rfl

theorem marks_opener (h : fence.Opens) (ls : List (List Char)) :
    ({} : State).marks (fence.text :: ls) = true :: fence.state.marks ls := by
  rw [State.marks_cons, next_of_opens h]
  rfl

theorem marks_closer {closer : List Char} (h : fence.ClosedBy closer) (ls : List (List Char)) :
    fence.state.marks (closer :: ls) = true :: ({} : State).marks ls := by
  rw [State.marks_cons, next_of_closedBy h]
  rfl

end FenceLine

/-! ## The greedy cut -/

/-- Marks for the lines of a text, told by the greedy cut: the first line that opens a fence starts
a region, which reaches to the first line behind it that closes the fence, or to the end if none
does; behind the region the cut starts anew.  The lines of regions are marked. -/
inductive GreedyMarks : List (List Char) → List Bool → Prop
  | outside {ls : List (List Char)} : (∀ line ∈ ls, ¬OpensFence line) →
      GreedyMarks ls (List.replicate ls.length false)
  | unclosed {before inner : List (List Char)} {fence : FenceLine} :
      (∀ line ∈ before, ¬OpensFence line) → fence.Opens → (∀ line ∈ inner, ¬fence.ClosedBy line) →
      GreedyMarks (before ++ fence.text :: inner)
        (List.replicate before.length false ++ true :: List.replicate inner.length true)
  | closed {before inner after : List (List Char)} {fence : FenceLine} {closer : List Char}
      {marks : List Bool} :
      (∀ line ∈ before, ¬OpensFence line) → fence.Opens → (∀ line ∈ inner, ¬fence.ClosedBy line) →
      fence.ClosedBy closer → GreedyMarks after marks →
      GreedyMarks (before ++ fence.text :: (inner ++ closer :: after))
        (List.replicate before.length false ++
          true :: (List.replicate inner.length true ++ true :: marks))

/-- The greedy cut marks what the scanner marks. -/
theorem GreedyMarks.eq_marks {ls : List (List Char)} {marks : List Bool}
    (h : GreedyMarks ls marks) :
    marks = ({} : State).marks ls := by
  induction h with
  | @outside ls hls =>
      have hmarks := marks_outside hls []
      rw [List.append_nil] at hmarks
      rw [hmarks]
      exact (List.append_nil _).symm
  | @unclosed before inner fence hbefore hopens hinner =>
      have hmarks := FenceLine.marks_inside hinner []
      rw [List.append_nil] at hmarks
      rw [marks_outside hbefore, FenceLine.marks_opener hopens, hmarks]
      exact congrArg (_ ++ true :: ·) (List.append_nil _).symm
  | closed hbefore hopens hinner hcloses _ ih =>
      rw [marks_outside hbefore, FenceLine.marks_opener hopens, FenceLine.marks_inside hinner,
        FenceLine.marks_closer hcloses, ← ih]

/-- The first element of a list with a property. -/
theorem exists_first {α : Type} {p : α → Prop} {l : List α} (h : ∃ x ∈ l, p x) :
    ∃ front x back, l = front ++ x :: back ∧ p x ∧ ∀ y ∈ front, ¬p y := by
  classical
  obtain ⟨x, hx⟩ : ∃ x, l.find? (fun x => decide (p x)) = some x := by
    rw [← Option.isSome_iff_exists, List.find?_isSome]
    simpa using h
  obtain ⟨hp, front, back, rfl, hfront⟩ := List.find?_eq_some_iff_append.1 hx
  exact ⟨front, x, back, rfl, by simpa using hp, by simpa using hfront⟩

/-- What the scanner marks is told by a greedy cut. -/
theorem greedyMarks_marks (ls : List (List Char)) : GreedyMarks ls (({} : State).marks ls) := by
  by_cases hopener : ∃ line ∈ ls, OpensFence line
  · obtain ⟨before, _, rest, hls, ⟨fence, rfl, hopens⟩, hbefore⟩ := exists_first hopener
    by_cases hcloser : ∃ line ∈ rest, fence.ClosedBy line
    · -- Behind the closing line there are fewer lines, and the scanner is outside again.
      obtain ⟨inner, closer, after, rfl, hcloses, hinner⟩ := exists_first hcloser
      have hafter := greedyMarks_marks after
      have hcut := GreedyMarks.closed hbefore hopens hinner hcloses hafter
      rw [hls, ← hcut.eq_marks]
      exact hcut
    · have hinner : ∀ line ∈ rest, ¬fence.ClosedBy line := by simpa using hcloser
      have hcut := GreedyMarks.unclosed hbefore hopens hinner
      rw [hls, ← hcut.eq_marks]
      exact hcut
  · have hls : ∀ line ∈ ls, ¬OpensFence line := by simpa using hopener
    have hcut := GreedyMarks.outside hls
    rw [← hcut.eq_marks]
    exact hcut
termination_by ls.length
decreasing_by
  rw [hls]
  simp
  omega

/-- Reading the lines of a text from the start marks a line exactly if it belongs to a region of the
greedy cut.  In all states on the way, outside of fences nothing is remembered, and an open fence
has one of the two characters, at least three of them, and an indent of at most three columns. -/
theorem advanceAll_marks_greedily (ls : List (List Char)) :
    (∀ marks, GreedyMarks ls marks ↔ (({} : State).advanceAll ls).map Outcome.inFence = marks) ∧
      ∀ state ∈ ({} : State) :: (({} : State).advanceAll ls).map Outcome.next,
        state.WellFormed := by
  -- What is said of the states on the way follows from what one line does to a reachable one.
  have hstart : ({} : State).Reachable := .inl rfl
  refine ⟨fun marks => ⟨fun h => h.eq_marks.symm, ?_⟩,
    List.forall_mem_cons.2 ⟨hstart.wellFormed, ?_⟩⟩
  · rintro rfl
    exact greedyMarks_marks ls
  · rw [List.forall_mem_map]
    exact fun outcome hm => (hstart.advanceAll ls outcome hm).wellFormed

end Folio.Fence
