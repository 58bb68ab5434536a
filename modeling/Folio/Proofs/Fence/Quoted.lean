import Folio.Proofs.Fence.Written

/-!
# Fences in a quote

A fenced block in a block quote whose author did not put the same prefix in front of each line.
What is dropped from the lines is measured on the first one: as many characters, as long as they
could belong to a prefix.  So a line keeps a part of a longer prefix, and loses what looks like a
prefix at the start of its content when its own is shorter.
-/

namespace Folio.Fence

open Folio.Text

/-! ## Dropping a front -/

/-- A character that may stand in the prefix of a container. -/
def isFrontChar (c : Char) : Bool :=
  isIndent c || c == '>'

theorem isIndent_of_mem_replicate (n : Nat) : ∀ c ∈ List.replicate n ' ', isIndent c := by
  intro c hc
  rw [List.eq_of_mem_replicate hc]
  rfl

theorem isFront_replicate (n : Nat) : IsFront (List.replicate n ' ') := fun c hc => by
  rw [isIndent_of_mem_replicate n c hc, Bool.true_or]

theorem isFrontChar_of_isMarker {c : Char} (h : isMarker c) : isFrontChar c = false := by
  rcases isMarker_iff.1 h with rfl | rfl <;> rfl

theorem stripContainer_zero (line : List Char) : stripContainer 0 line = line := by
  rw [stripContainer]

theorem stripContainer_cons_of_pos {c : Char} (h : isFrontChar c = true) (width : Nat)
    (line : List Char) : stripContainer (width + 1) (c :: line) = stripContainer width line := by
  rw [stripContainer]
  exact if_pos h

theorem stripContainer_cons_of_neg {c : Char} (h : isFrontChar c = false) (width : Nat)
    (line : List Char) : stripContainer width (c :: line) = c :: line := by
  cases width with
  | zero => exact stripContainer_zero _
  | succ width =>
      rw [stripContainer]
      exact if_neg (Bool.eq_false_iff.1 h)

/-- A front is dropped whole, and then as many characters as are left to drop. -/
theorem stripContainer_append {front : List Char} (h : IsFront front) {width : Nat}
    (hle : front.length ≤ width) (line : List Char) :
    stripContainer width (front ++ line) = stripContainer (width - front.length) line := by
  induction front generalizing width with
  | nil => rfl
  | cons c front ih =>
      rw [IsFront, List.forall_mem_cons] at h
      obtain ⟨n, rfl⟩ : ∃ n, width = n + 1 := ⟨width - 1, by rw [List.length_cons] at hle; omega⟩
      rw [List.length_cons, Nat.add_le_add_iff_right] at hle
      rw [List.cons_append, stripContainer_cons_of_pos h.1, ih h.2 hle, List.length_cons,
        Nat.add_sub_add_right]

/-- Of a longer front only a part is dropped. -/
theorem stripContainer_append_of_lt {front : List Char} (h : IsFront front) {width : Nat}
    (hlt : width < front.length) (line : List Char) :
    stripContainer width (front ++ line) = front.drop width ++ line := by
  have htake : IsFront (front.take width) := fun c hc => h c (List.mem_of_mem_take hc)
  have hlength : (front.take width).length = width := by
    rw [List.length_take]
    omega
  calc stripContainer width (front ++ line)
      = stripContainer width (front.take width ++ (front.drop width ++ line)) := by
        rw [← List.append_assoc, List.take_append_drop]
    _ = stripContainer (width - width) (front.drop width ++ line) := by
        rw [stripContainer_append htake (Nat.le_of_eq hlength), hlength]
    _ = front.drop width ++ line := by rw [Nat.sub_self, stripContainer_zero]

theorem length_stripContainer_le (width : Nat) (line : List Char) :
    (stripContainer width line).length ≤ line.length := by
  induction width generalizing line with
  | zero => rw [stripContainer_zero]
  | succ width ih =>
      cases line with
      | nil => rfl
      | cons c line =>
          by_cases h : isFrontChar c = true
          · rw [stripContainer_cons_of_pos h, List.length_cons]
            exact Nat.le_succ_of_le (ih line)
          · rw [stripContainer_cons_of_neg (by simpa using h)]

/-- Nothing is dropped from a text exactly if nothing is to be dropped, or it does not start like a
prefix. -/
theorem stripContainer_eq_self_iff {width : Nat} {line : List Char} :
    stripContainer width line = line ↔ width = 0 ∨ ∀ c ∈ line.head?, isFrontChar c = false := by
  cases width with
  | zero => simp [stripContainer_zero]
  | succ width =>
      cases line with
      | nil => simp [stripContainer]
      | cons c line =>
          rw [List.head?_cons]
          by_cases h : isFrontChar c = true
          · have hshort : stripContainer (width + 1) (c :: line) ≠ c :: line := by
              intro heq
              have hlength := length_stripContainer_le width line
              rw [← stripContainer_cons_of_pos h, heq, List.length_cons] at hlength
              omega
            simp [hshort, h]
          · have hfalse : isFrontChar c = false := by simpa using h
            simp [stripContainer_cons_of_neg hfalse, hfalse]

/-- The line feed at the end of a line is never dropped. -/
theorem stripContainer_concat (width : Nat) (line : List Char) :
    stripContainer width (line ++ ['\n']) = stripContainer width line ++ ['\n'] := by
  have hnewline : isFrontChar '\n' = false := by decide
  induction width generalizing line with
  | zero => rw [stripContainer_zero, stripContainer_zero]
  | succ width ih =>
      cases line with
      | nil => exact stripContainer_cons_of_neg hnewline _ _
      | cons c line =>
          rw [List.cons_append]
          by_cases h : isFrontChar c = true
          · rw [stripContainer_cons_of_pos h, stripContainer_cons_of_pos h, ih]
          · have hfalse : isFrontChar c = false := by simpa using h
            rw [stripContainer_cons_of_neg hfalse, stripContainer_cons_of_neg hfalse,
              List.cons_append]

theorem mem_of_mem_stripContainer {width : Nat} {line : List Char} {c : Char}
    (h : c ∈ stripContainer width line) : c ∈ line := by
  induction width generalizing line with
  | zero => rwa [stripContainer_zero] at h
  | succ width ih =>
      cases line with
      | nil => exact h
      | cons d line =>
          by_cases hd : isFrontChar d = true
          · rw [stripContainer_cons_of_pos hd] at h
            exact List.mem_cons_of_mem d (ih h)
          · rwa [stripContainer_cons_of_neg (by simpa using hd)] at h

/-! ## Quoted lines -/

/-- What an author puts in front of a line of a quote. -/
structure QuotePrefix where
  indent : Nat
  /-- Whether a space follows the quote marker. -/
  spaced : Bool
  indent_le_three : indent ≤ 3

namespace QuotePrefix

variable (front : QuotePrefix)

/-- The space after the quote marker. -/
def space : List Char :=
  if front.spaced then [' '] else []

/-- The prefix as it is written. -/
def text : List Char :=
  List.replicate front.indent ' ' ++ '>' :: front.space

/-- A text can follow a prefix: a space after the quote marker belongs to the prefix. -/
def Precedes (content : List Char) : Prop :=
  content.head? = some ' ' → front.spaced = true

theorem eq_space_of_mem {c : Char} (h : c ∈ front.space) : c = ' ' := by
  rw [space] at h
  split at h
  · exact List.mem_singleton.1 h
  · cases h

theorem isFront_text : IsFront front.text := by
  intro c hc
  rw [text, List.mem_append, List.mem_cons] at hc
  rcases hc with hc | rfl | hc
  · exact isFront_replicate _ c hc
  · rfl
  · rw [front.eq_space_of_mem hc]
    rfl

end QuotePrefix

/-- A line of a quote: a prefix and what the quote holds. -/
structure QuotedLine where
  front : QuotePrefix
  content : Line
  precedes : front.Precedes content.text

namespace QuotedLine

variable (line : QuotedLine)

/-- The line as it is written. -/
def written : List Char :=
  line.front.text ++ line.content.written

/-- The line with its prefix, as a line of the source. -/
def whole : Line where
  text := line.front.text ++ line.content.text
  oneLine := by
    rw [List.mem_append, not_or]
    exact ⟨line.front.isFront_text.newline_notMem, line.content.oneLine⟩

/-- The line after as much of a prefix as a width allows has been dropped. -/
def stripped (width : Nat) : Line where
  text := stripContainer width line.whole.text
  oneLine := fun hm => line.whole.oneLine (mem_of_mem_stripContainer hm)

theorem written_eq : line.written = line.whole.written :=
  (List.append_assoc line.front.text line.content.text ['\n']).symm

theorem text_stripped (width : Nat) :
    (line.stripped width).text = stripContainer width (line.front.text ++ line.content.text) := rfl

theorem stripContainer_written (width : Nat) :
    stripContainer width line.written = (line.stripped width).written := by
  rw [written_eq, Line.written, stripContainer_concat]
  rfl

/-- A width takes exactly the prefix of a line: it is the length of the prefix, or more than that,
and the content does not start like a prefix. -/
def Fits (width : Nat) : Prop :=
  line.front.text.length = width ∨
    line.front.text.length < width ∧ ∀ c ∈ line.content.text.head?, c ≠ ' ' ∧ c ≠ '\t' ∧ c ≠ '>'

theorem isFrontChar_eq_false_iff {c : Char} :
    isFrontChar c = false ↔ c ≠ ' ' ∧ c ≠ '\t' ∧ c ≠ '>' := by
  simp [isFrontChar, isIndent, and_assoc]

/-- The content of a line is left exactly if the width fits. -/
theorem stripped_eq_content_iff {width : Nat} :
    (line.stripped width).text = line.content.text ↔ line.Fits width := by
  rw [text_stripped, Fits]
  rcases Nat.lt_or_ge width line.front.text.length with hlt | hle
  · -- A part of the prefix stays, which makes the line longer than its content.
    have hlong : line.front.text.drop width ++ line.content.text ≠ line.content.text := by
      intro heq
      have hlength := congrArg List.length heq
      rw [List.length_append, List.length_drop] at hlength
      omega
    rw [stripContainer_append_of_lt line.front.isFront_text hlt]
    simp only [hlong, false_iff]
    omega
  · rw [stripContainer_append line.front.isFront_text hle, stripContainer_eq_self_iff]
    simp only [isFrontChar_eq_false_iff]
    constructor
    · rintro (hzero | hhead)
      · exact Or.inl (by omega)
      · by_cases heq : line.front.text.length = width
        · exact Or.inl heq
        · exact Or.inr ⟨by omega, hhead⟩
    · rintro (heq | ⟨-, hhead⟩)
      · exact Or.inl (by omega)
      · exact Or.inr hhead

end QuotedLine

/-- The lines of a quote give their contents, put together, exactly if the width fits each of
them. -/
theorem flatMap_stripped_iff {width : Nat} (ls : List QuotedLine) :
    (ls.flatMap fun line => (line.stripped width).written) =
        ls.flatMap (fun line => line.content.written) ↔
      ∀ line ∈ ls, line.Fits width := by
  have hcut : ∀ f : QuotedLine → Line,
      linesWithEnds (ls.flatMap fun line => (f line).written) =
        ls.map fun line => (f line).written := by
    intro f
    have hnil : '\n' ∉ ([] : List Char) := List.not_mem_nil
    have hlines := linesWithEnds_flatMap hnil (ls.map f)
    rw [List.flatMap_map, List.map_map] at hlines
    exact hlines
  have hwritten : ∀ line : QuotedLine, (line.stripped width).written = line.content.written ↔
      line.Fits width := by
    intro line
    rw [Line.written, Line.written, List.append_cancel_right_eq, line.stripped_eq_content_iff]
  constructor
  · intro heq line hm
    -- Both texts are cut into the same lines.
    have hlines := congrArg linesWithEnds heq
    rw [hcut fun line => line.stripped width, hcut fun line => line.content, List.map_inj_left]
      at hlines
    exact (hwritten line).1 (hlines line hm)
  · intro h
    rw [List.flatMap_congr fun line hm => (hwritten line).2 (h line hm)]

/-! ## Quoted blocks -/

/-- A fenced block in a quote whose lines each have a prefix of their own.  Blanks may indent the
two fences further. -/
structure QuotedBlock where
  /-- The block that the quote holds. -/
  block : Block
  openFront : QuotePrefix
  openBlanks : List Char := []
  lines : List QuotedLine
  closeFront : QuotePrefix
  closeBlanks : List Char := []
  interior_eq : block.interior = lines.map QuotedLine.content
  openBlanks_isIndent : ∀ c ∈ openBlanks, isIndent c
  closeBlanks_isIndent : ∀ c ∈ closeBlanks, isIndent c
  open_precedes : openFront.Precedes (openBlanks ++ block.opener)
  close_precedes : closeFront.Precedes (closeBlanks ++ block.closer)

/-- The interior of a block that is closed if its last line is, after as much of a prefix as the
width allows has been dropped from it. -/
theorem interior?_of_lines (block : Block) {blanks inside last : List Char} {width : Nat}
    (hblanks : ∀ c ∈ blanks, isIndent c) (hinside : WholeLines inside) (hlast : '\n' ∉ last)
    (hend : ∃ front, last = front ++ block.closer) :
    interior? (blanks ++ block.opener ++ '\n' :: (inside ++ last)) width =
      (run? ((stripContainer width last).dropWhile isIndent)).bind fun closing =>
        if closing.closes
            { inside := true, marker := some block.marker, length := block.length } then
          some ((linesWithEnds inside).flatMap (stripContainer width))
        else none := by
  obtain ⟨front, rfl⟩ := hend
  have hreturn : dropEndWhile isReturn
      (blanks ++ block.opener ++ '\n' :: (inside ++ (front ++ block.closer))) =
        blanks ++ block.opener ++ '\n' :: (inside ++ (front ++ block.closer)) := by
    obtain ⟨init, c, hcloser, hc⟩ := block.exists_closer
    rw [hcloser, ← List.append_assoc front, ← List.append_assoc inside, ← List.cons_append,
      ← List.append_assoc]
    exact dropEndWhile_concat hc _
  have hline : ∀ c ∈ blanks ++ block.opener, (c != '\n') = true := by
    rw [List.forall_mem_append]
    refine ⟨fun c hc => ?_, block.forall_mem_opener⟩
    rcases isIndent_iff.1 (hblanks c hc) with rfl | rfl <;> rfl
  have hopener : (blanks ++ block.opener).dropWhile isIndent = block.opener := by
    rw [List.dropWhile_append_of_pos hblanks, block.dropWhile_opener]
  have hhead : ∀ c ∈ ('\n' :: (inside ++ (front ++ block.closer))).head?, (c != '\n') = false := by
    simp
  unfold interior?
  simp only [hreturn, takeWhile_front hline hhead, dropWhile_front hline hhead, hopener,
    block.run?_opener, Option.bind_eq_bind, Option.bind_some, splitLastLine_append hinside hlast]

/-- Behind blanks of which some are dropped. -/
theorem dropWhile_stripContainer {blanks rest : List Char} (hblanks : ∀ c ∈ blanks, isIndent c)
    (hrest : ∀ c ∈ rest.head?, isFrontChar c = false) (width : Nat) :
    (stripContainer width (blanks ++ rest)).dropWhile isIndent = rest := by
  have hindent : ∀ c ∈ rest.head?, isIndent c = false := fun c hc =>
    (Bool.or_eq_false_iff.1 (hrest c hc)).1
  induction blanks generalizing width with
  | nil =>
      rw [List.nil_append, stripContainer_eq_self_iff.2 (Or.inr hrest)]
      cases rest with
      | nil => rfl
      | cons c rest => exact List.dropWhile_cons_of_neg (by simp [hindent c rfl])
  | cons c blanks ih =>
      cases width with
      | zero =>
          rw [stripContainer_zero]
          exact dropWhile_front hblanks hindent
      | succ width =>
          rw [List.forall_mem_cons] at hblanks
          have hc : isFrontChar c = true := by rw [isFrontChar, hblanks.1, Bool.true_or]
          rw [List.cons_append, stripContainer_cons_of_pos hc]
          exact ih hblanks.2 width

namespace QuotedBlock

variable (quoted : QuotedBlock)

/-- The line that closes the block, as it is written. -/
def last : List Char :=
  quoted.closeFront.text ++ (quoted.closeBlanks ++ quoted.block.closer)

/-- The interior of the block, as it is written. -/
def inside : List Char :=
  quoted.lines.flatMap QuotedLine.written

/-- What follows the prefix of the first line. -/
def opened : List Char :=
  quoted.openBlanks ++ quoted.block.opener ++ '\n' :: (quoted.inside ++ quoted.last)

/-- The whole quote as it is written. -/
def written : List Char :=
  quoted.openFront.text ++ quoted.opened

/-- The width of the quote: the indentation of its first line, the quote marker, and a blank after
it. -/
def width : Nat :=
  quoted.openFront.indent + 1 +
    if quoted.openFront.spaced || !quoted.openBlanks.isEmpty then 1 else 0

/-- The text of the block is that of its quoted lines. -/
theorem text_block : quoted.block.text = quoted.lines.flatMap fun line => line.content.written := by
  rw [Block.text, quoted.interior_eq, List.flatMap_map]

theorem inside_eq :
    quoted.inside = (quoted.lines.map QuotedLine.whole).flatMap fun line => [] ++ line.written := by
  rw [inside, List.flatMap_map]
  exact List.flatMap_congr fun line _ => line.written_eq

/-- The lines of the interior, each without as much of a prefix as a width allows. -/
theorem flatMap_stripContainer_inside (width : Nat) :
    (linesWithEnds quoted.inside).flatMap (stripContainer width) =
      quoted.lines.flatMap fun line => (line.stripped width).written := by
  have hnil : '\n' ∉ ([] : List Char) := List.not_mem_nil
  rw [inside_eq, linesWithEnds_flatMap hnil, List.flatMap_map, List.flatMap_map]
  refine List.flatMap_congr fun line _ => ?_
  rw [List.nil_append, ← line.written_eq, line.stripContainer_written]

/-- The fence that closes the block is found if the quote marker before it is dropped: then there
are only blanks before it. -/
theorem run?_last_of_lt {width : Nat} (h : quoted.closeFront.indent < width) :
    run? ((stripContainer width quoted.last).dropWhile isIndent) =
      some ⟨quoted.block.marker, quoted.block.closeLength, quoted.block.closeTail⟩ := by
  have hfront : IsFront (List.replicate quoted.closeFront.indent ' ' ++ ['>']) := by
    rw [IsFront, List.forall_mem_append, List.forall_mem_singleton]
    exact ⟨isFront_replicate _, rfl⟩
  have hlength : (List.replicate quoted.closeFront.indent ' ' ++ ['>']).length ≤ width := by
    rw [List.length_append, List.length_replicate]
    exact h
  have hblanks : ∀ c ∈ quoted.closeFront.space ++ quoted.closeBlanks ++
      List.replicate quoted.block.closeIndent ' ', isIndent c := by
    rw [List.forall_mem_append, List.forall_mem_append]
    refine ⟨⟨fun c hc => ?_, quoted.closeBlanks_isIndent⟩, isIndent_of_mem_replicate _⟩
    rw [quoted.closeFront.eq_space_of_mem hc]
    rfl
  have hfence : ∀ c ∈ (List.replicate quoted.block.closeLength quoted.block.marker ++
      quoted.block.closeTail).head?, isFrontChar c = false := by
    obtain ⟨rest, hrest⟩ := quoted.block.exists_closeFence
    rw [hrest]
    rintro c ⟨⟩
    exact isFrontChar_of_isMarker quoted.block.marker_isMarker
  have hlast : quoted.last = (List.replicate quoted.closeFront.indent ' ' ++ ['>']) ++
      ((quoted.closeFront.space ++ quoted.closeBlanks ++
        List.replicate quoted.block.closeIndent ' ') ++
        (List.replicate quoted.block.closeLength quoted.block.marker ++
          quoted.block.closeTail)) := by
    simp only [last, QuotePrefix.text, Block.closer, List.append_assoc, List.cons_append,
      List.nil_append]
  rw [hlast, stripContainer_append hfront hlength, dropWhile_stripContainer hblanks hfence,
    ← quoted.block.dropWhile_closer, quoted.block.run?_closer]

/-- No fence is found if the quote marker stays. -/
theorem run?_last_of_le {width : Nat} (h : width ≤ quoted.closeFront.indent) :
    run? ((stripContainer width quoted.last).dropWhile isIndent) = none := by
  obtain ⟨n, hn⟩ : ∃ n, quoted.closeFront.indent = width + n :=
    ⟨quoted.closeFront.indent - width, by omega⟩
  have hlast : quoted.last = List.replicate width ' ' ++ (List.replicate n ' ' ++
      '>' :: (quoted.closeFront.space ++ (quoted.closeBlanks ++ quoted.block.closer))) := by
    rw [last, QuotePrefix.text, hn, List.replicate_add]
    simp only [List.append_assoc, List.cons_append]
  have hdrop := stripContainer_front (isFront_replicate width) (List.replicate n ' ' ++
    '>' :: (quoted.closeFront.space ++ (quoted.closeBlanks ++ quoted.block.closer)))
  rw [List.length_replicate] at hdrop
  rw [hlast, hdrop, dropWhile_front (isIndent_of_mem_replicate n) (by simp [isIndent])]
  rfl

/-- From some of the blanks before its opening fence on, a quoted block is cut to its interior if
the width reaches beyond the indentation of its last line, and else is not closed. -/
theorem interior?_opened {blanks : List Char} (hblanks : ∀ c ∈ blanks, isIndent c) (width : Nat) :
    interior? (blanks ++ quoted.block.opener ++ '\n' :: (quoted.inside ++ quoted.last)) width =
      if quoted.closeFront.indent < width then
        some (quoted.lines.flatMap fun line => (line.stripped width).written)
      else none := by
  have hinside : WholeLines quoted.inside := by
    rw [inside_eq]
    exact wholeLines_flatMap [] _
  have hlast : '\n' ∉ quoted.last := by
    have hcloseBlanks : '\n' ∉ quoted.closeBlanks := by
      intro hm
      cases quoted.closeBlanks_isIndent _ hm
    simp [last, quoted.closeFront.isFront_text.newline_notMem, hcloseBlanks,
      quoted.block.newline_notMem_closer]
  have hend : ∃ front, quoted.last = front ++ quoted.block.closer :=
    ⟨quoted.closeFront.text ++ quoted.closeBlanks, by rw [last, List.append_assoc]⟩
  have hcloses : Run.closes ⟨quoted.block.marker, quoted.block.closeLength, quoted.block.closeTail⟩
      { inside := true, marker := some quoted.block.marker, length := quoted.block.length } :=
    (quoted.block.closes_iff _).2 ⟨rfl, quoted.block.length_le_closeLength⟩
  rw [interior?_of_lines quoted.block hblanks hinside hlast hend]
  by_cases hlt : quoted.closeFront.indent < width
  · rw [quoted.run?_last_of_lt hlt, Option.bind_some, if_pos hcloses, if_pos hlt,
      flatMap_stripContainer_inside]
  · rw [quoted.run?_last_of_le (Nat.le_of_not_lt hlt), if_neg hlt, Option.bind_none]

end QuotedBlock

/-- A fence of three markers can be written around any lines, behind any prefixes. -/
theorem exists_quotedBlock (openFront closeFront : QuotePrefix) (lines : List QuotedLine) :
    ∃ quoted : QuotedBlock, quoted.openFront = openFront ∧ quoted.openBlanks = [] ∧
      quoted.lines = lines ∧ quoted.closeFront = closeFront ∧
      quoted.written = openFront.text ++ ['\x60', '\x60', '\x60', '\n'] ++
        (lines.flatMap QuotedLine.written ++ (closeFront.text ++ ['\x60', '\x60', '\x60'])) := by
  let block : Block :=
    { marker := '\x60', length := 3, info := ⟨[], by decide⟩
      interior := lines.map QuotedLine.content
      closeLength := 3, marker_isMarker := by decide, three_le_length := by decide
      info_head := by decide, length_le_closeLength := by decide
      closeTail_isIndent := List.forall_mem_nil _ }
  let quoted : QuotedBlock :=
    { block, openFront, lines, closeFront
      interior_eq := rfl
      openBlanks_isIndent := List.forall_mem_nil _
      closeBlanks_isIndent := List.forall_mem_nil _
      open_precedes := fun h => by cases h
      close_precedes := fun h => by cases h }
  refine ⟨quoted, rfl, rfl, rfl, rfl, ?_⟩
  rw [QuotedBlock.written, List.append_assoc]
  rfl

end Folio.Fence
