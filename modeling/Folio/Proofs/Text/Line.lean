import Folio.Text.Line
import Mathlib.Data.List.Basic
import Mathlib.Data.List.DropRight
import Mathlib.Data.List.TakeDrop

/-!
# Lines and line ends

How a text that is put together from lines is cut into them again.
-/

namespace Folio.Text

/-! ## Fronts and ends -/

section

variable {α : Type} {p : α → Bool} {front rest : List α}

/-- The front of a text up to the first character that is not of a kind. -/
theorem takeWhile_front (hfront : ∀ a ∈ front, p a) (hrest : ∀ a ∈ rest.head?, p a = false) :
    (front ++ rest).takeWhile p = front := by
  rw [List.takeWhile_append_of_pos hfront]
  cases rest with
  | nil => simp
  | cons a rest => simp [hrest a rfl]

/-- The text from the first character on that is not of a kind. -/
theorem dropWhile_front (hfront : ∀ a ∈ front, p a) (hrest : ∀ a ∈ rest.head?, p a = false) :
    (front ++ rest).dropWhile p = rest := by
  rw [List.dropWhile_append_of_pos hfront]
  cases rest with
  | nil => rfl
  | cons a rest => simp [hrest a rfl]

theorem span_front (hfront : ∀ a ∈ front, p a) (hrest : ∀ a ∈ rest.head?, p a = false) :
    (front ++ rest).span p = (front, rest) := by
  rw [List.span_eq_takeWhile_dropWhile, takeWhile_front hfront hrest,
    dropWhile_front hfront hrest]

/-- What is not of the kind at the end of a text is no part of its front. -/
theorem takeWhile_append_back {back : List α} (h : ∀ a ∈ back, p a = false) (l : List α) :
    (l ++ back).takeWhile p = l.takeWhile p := by
  induction l with
  | nil =>
      cases back with
      | nil => rfl
      | cons a back => exact List.takeWhile_cons_of_neg (by simp [h a])
  | cons a l ih => rw [List.cons_append, List.takeWhile_cons, List.takeWhile_cons, ih]

theorem dropWhile_append_back {back : List α} (h : ∀ a ∈ back, p a = false) (l : List α) :
    (l ++ back).dropWhile p = l.dropWhile p ++ back := by
  induction l with
  | nil =>
      cases back with
      | nil => rfl
      | cons a back => exact List.dropWhile_cons_of_neg (by simp [h a])
  | cons a l ih =>
      rw [List.cons_append, List.dropWhile_cons, List.dropWhile_cons, ih]
      split <;> rfl

/-- If something stays of the end of a text, then all before it stays. -/
theorem dropEndWhile_append_of_ne_nil {back : List α} (h : dropEndWhile p back ≠ [])
    (front : List α) : dropEndWhile p (front ++ back) = front ++ dropEndWhile p back := by
  induction front with
  | nil => rfl
  | cons a front ih =>
      rw [List.cons_append, dropEndWhile, ih, List.cons_append]
      cases hrest : front ++ dropEndWhile p back with
      | nil => exact (h (List.append_eq_nil_iff.1 hrest).2).elim
      | cons b rest => rfl

/-- Nothing is dropped from a text whose last character is to stay. -/
theorem dropEndWhile_concat {a : α} (ha : p a = false) (front : List α) :
    dropEndWhile p (front ++ [a]) = front ++ [a] := by
  have hlast : dropEndWhile p [a] = [a] := by simp [dropEndWhile, ha]
  rw [dropEndWhile_append_of_ne_nil (by simp [hlast]), hlast]

end

section

variable {α : Type} {p : α → Bool}

theorem dropEndWhile_eq_rdropWhile (l : List α) : dropEndWhile p l = l.rdropWhile p := by
  induction l with
  | nil => rfl
  | cons a l ih =>
      rw [dropEndWhile, ih, List.rdropWhile, List.rdropWhile, List.reverse_cons,
        List.dropWhile_append]
      cases hrest : l.reverse.dropWhile p with
      | nil =>
          by_cases ha : p a
          · simp [ha]
          · simp [ha]
      | cons b rest =>
          show _ = (b :: rest ++ [a]).reverse
          rw [List.reverse_append, List.reverse_singleton]
          cases hrev : (b :: rest).reverse with
          | nil => simp at hrev
          | cons c r => rfl

/-- A text is what stays of it and the end that is dropped. -/
theorem dropEndWhile_append_rtakeWhile (l : List α) : dropEndWhile p l ++ l.rtakeWhile p = l := by
  rw [dropEndWhile_eq_rdropWhile, List.rdropWhile_append_rtakeWhile]

theorem sublist_dropEndWhile (l : List α) : (dropEndWhile p l).Sublist l := by
  conv_rhs => rw [← dropEndWhile_append_rtakeWhile (p := p) l]
  exact List.sublist_append_left _ _

theorem dropEndWhile_eq_nil_iff {l : List α} : dropEndWhile p l = [] ↔ ∀ a ∈ l, p a := by
  rw [dropEndWhile_eq_rdropWhile, List.rdropWhile_eq_nil_iff]

/-- An end that is dropped whole makes no difference. -/
theorem dropEndWhile_append {tail : List α} (h : ∀ a ∈ tail, p a) (l : List α) :
    dropEndWhile p (l ++ tail) = dropEndWhile p l := by
  have hreverse : ∀ a ∈ tail.reverse, p a := fun a ha => h a (List.mem_reverse.1 ha)
  rw [dropEndWhile_eq_rdropWhile, dropEndWhile_eq_rdropWhile, List.rdropWhile, List.reverse_append,
    List.dropWhile_append_of_pos hreverse, List.rdropWhile]

/-- Nothing is dropped exactly if the last character is to stay. -/
theorem dropEndWhile_eq_self_iff {l : List α} :
    dropEndWhile p l = l ↔ ∀ a ∈ l.getLast?, p a = false := by
  rw [dropEndWhile_eq_rdropWhile, List.rdropWhile_eq_self_iff]
  constructor
  · intro h a ha
    obtain ⟨hne, rfl⟩ := List.mem_getLast?_eq_getLast ha
    simpa using h hne
  · intro h hne
    simp [h _ (List.getLast?_eq_getLast_of_ne_nil hne)]

end

section

variable {α : Type} {p : α → Bool}

/-- What stays of a text without its end has nothing of the kind at its own end. -/
theorem getLast?_dropEndWhile (l : List α) : ∀ a ∈ (dropEndWhile p l).getLast?, p a = false := by
  rw [← dropEndWhile_eq_self_iff, dropEndWhile_eq_rdropWhile, dropEndWhile_eq_rdropWhile,
    List.rdropWhile_idempotent]

/-- Nothing is dropped from before a character that is to stay. -/
theorem dropEndWhile_append_of_getLast? {front : List α} (h : ∀ a ∈ front.getLast?, p a = false)
    (back : List α) : dropEndWhile p (front ++ back) = front ++ dropEndWhile p back := by
  by_cases hback : dropEndWhile p back = []
  · rw [dropEndWhile_append (dropEndWhile_eq_nil_iff.1 hback), dropEndWhile_eq_self_iff.2 h, hback,
      List.append_nil]
  · exact dropEndWhile_append_of_ne_nil hback front

end

/-! ## Characters -/

theorem isIndent_iff {c : Char} : isIndent c ↔ c = ' ' ∨ c = '\t' := by
  simp [isIndent]

theorem isReturn_of_isIndent {c : Char} (h : isIndent c) : isReturn c = false := by
  rcases isIndent_iff.1 h with rfl | rfl <;> rfl

theorem isReturn_iff {c : Char} : isReturn c ↔ c = '\n' ∨ c = '\r' := by
  simp [isReturn]

theorem isIndent_of_isReturn {c : Char} (h : isReturn c) : isIndent c = false := by
  rcases isReturn_iff.1 h with rfl | rfl <;> rfl

theorem isBlank_of_isReturn {c : Char} (h : isReturn c) : isBlank c := by
  rcases isReturn_iff.1 h with rfl | rfl <;> rfl

theorem isBlank_of_isIndent {c : Char} (h : isIndent c) : isBlank c := by
  rcases isIndent_iff.1 h with rfl | rfl <;> rfl

theorem isIndent_of_isDigit {c : Char} (h : c.isDigit) : isIndent c = false := by
  rw [Bool.eq_false_iff, ne_eq, isIndent_iff]
  rintro (rfl | rfl)
  · cases h
  · cases h

theorem isBlank_of_isDigit {c : Char} (h : c.isDigit) : isBlank c = false := by
  simp only [Char.isDigit, Bool.and_eq_true, decide_eq_true_eq] at h
  simp only [isBlank, Bool.or_eq_false_iff, Bool.and_eq_false_iff, beq_eq_false_iff_ne, ne_eq,
    decide_eq_false_iff_not, ge_iff_le, Char.le_def, UInt32.le_iff_toNat_le, Char.ext_iff,
    ← UInt32.toNat_inj, Char.reduceVal, UInt32.reduceToNat] at h ⊢
  omega

/-! ## Cutting into lines -/

/-- The text is empty or ends in a line feed. -/
def WholeLines (cs : List Char) : Prop :=
  cs = [] ∨ ∃ init, cs = init ++ ['\n']

theorem wholeLines_nil : WholeLines [] := Or.inl rfl

theorem wholeLines_concat (init : List Char) : WholeLines (init ++ ['\n']) := Or.inr ⟨init, rfl⟩

theorem linesWithEnds_eq_nil {cs : List Char} (h : linesWithEnds cs = []) : cs = [] := by
  rw [← flatten_linesWithEnds cs, h]
  rfl

/-- The first line of a text that holds a line feed. -/
theorem linesWithEnds_line {line : List Char} (h : '\n' ∉ line) (rest : List Char) :
    linesWithEnds (line ++ '\n' :: rest) = (line ++ ['\n']) :: linesWithEnds rest := by
  induction line with
  | nil => simp [linesWithEnds]
  | cons c line ih =>
      rw [List.mem_cons, not_or] at h
      rw [List.cons_append, linesWithEnds, if_neg (Ne.symm h.1), ih h.2]
      rfl

/-- A text without line feeds is one line. -/
theorem linesWithEnds_of_not_mem {cs : List Char} (hne : cs ≠ []) (h : '\n' ∉ cs) :
    linesWithEnds cs = [cs] := by
  induction cs with
  | nil => exact (hne rfl).elim
  | cons c cs ih =>
      rw [List.mem_cons, not_or] at h
      cases cs with
      | nil => simp [linesWithEnds, Ne.symm h.1]
      | cons d cs => rw [linesWithEnds, if_neg (Ne.symm h.1), ih (by simp) h.2]

/-- A text is cut into lines independently of what whole lines stand before it. -/
theorem linesWithEnds_append {cs : List Char} (h : WholeLines cs) (ds : List Char) :
    linesWithEnds (cs ++ ds) = linesWithEnds cs ++ linesWithEnds ds := by
  rcases h with rfl | ⟨init, rfl⟩
  · rfl
  · induction init with
    | nil => simp [linesWithEnds]
    | cons c init ih =>
        by_cases hc : c = '\n'
        · simp only [List.cons_append, linesWithEnds, if_pos hc, ih]
        · simp only [List.cons_append, linesWithEnds, if_neg hc, ih]
          cases hlines : linesWithEnds (init ++ ['\n']) with
          | nil => simpa using linesWithEnds_eq_nil hlines
          | cons line rest => rfl

theorem lines_append {cs : List Char} (h : WholeLines cs) (ds : List Char) :
    lines (cs ++ ds) = lines cs ++ lines ds := by
  rw [lines, linesWithEnds_append h, List.map_append]
  rfl

/-- Nothing of a text without line feeds is before its last line. -/
theorem splitLastLine_of_not_mem {last : List Char} (h : '\n' ∉ last) :
    splitLastLine last = ([], last) := by
  induction last with
  | nil => rfl
  | cons c last ih =>
      rw [List.mem_cons, not_or] at h
      rw [splitLastLine, ih h.2]
      exact if_neg (Ne.symm h.1)

/-- Whole lines stand before the last line. -/
theorem splitLastLine_append {cs last : List Char} (hcs : WholeLines cs) (h : '\n' ∉ last) :
    splitLastLine (cs ++ last) = (cs, last) := by
  rcases hcs with rfl | ⟨init, rfl⟩
  · exact splitLastLine_of_not_mem h
  · induction init with
    | nil =>
        rw [List.nil_append, List.singleton_append, splitLastLine, splitLastLine_of_not_mem h]
        rfl
    | cons c init ih =>
        rw [List.cons_append, List.cons_append, splitLastLine, ih]
        cases init <;> rfl

/-! ## Lines without their ends -/

theorem stripEnd_crlf (line : List Char) : stripEnd (line ++ ['\r', '\n']) = line := by
  simp [stripEnd]

theorem stripEnd_lf {line : List Char} (h : line.getLast? ≠ some '\r') :
    stripEnd (line ++ ['\n']) = line := by
  rcases List.eq_nil_or_concat line with rfl | ⟨init, c, rfl⟩
  · rfl
  · have hc : c ≠ '\r' := by simpa using h
    simp [stripEnd, hc]

theorem stripEnd_of_not_mem {line : List Char} (h : '\n' ∉ line) : stripEnd line = line := by
  rcases List.eq_nil_or_concat line with rfl | ⟨init, c, rfl⟩
  · rfl
  · have hc : c ≠ '\n' := by
      rintro rfl
      simp at h
    simp [stripEnd, hc]

/-- The first line of a text that holds a line feed, without its end. -/
theorem lines_line {line : List Char} (h : '\n' ∉ line) (rest : List Char) :
    lines (line ++ '\n' :: rest) = stripEnd (line ++ ['\n']) :: lines rest := by
  rw [lines, linesWithEnds_line h]
  rfl

/-- The end of a line takes nothing from a line before a character that is no part of it. -/
theorem exists_stripEnd_concat {c : Char} (hc : c ≠ '\r') (front line : List Char) :
    ∃ tail, stripEnd (front ++ c :: line ++ ['\n']) = front ++ c :: tail := by
  rcases List.eq_nil_or_concat line with rfl | ⟨init, d, rfl⟩
  · exact ⟨[], stripEnd_lf (by simpa using hc)⟩
  · by_cases hd : d = '\r'
    · -- The carriage return goes with the line feed.
      refine ⟨init, ?_⟩
      rw [← stripEnd_crlf (front ++ c :: init), hd]
      simp
    · have hlast : (front ++ c :: init.concat d).getLast? ≠ some '\r' := by
        rw [List.concat_eq_append, ← List.cons_append, ← List.append_assoc, List.getLast?_concat]
        simpa using hd
      exact ⟨init.concat d, stripEnd_lf hlast⟩

/-- The first line of a text keeps a character that is no part of a line end, and all before it. -/
theorem head?_lines {front : List Char} {c : Char} (hfront : '\n' ∉ front) (hline : c ≠ '\n')
    (hreturn : c ≠ '\r') (rest : List Char) :
    ∃ tail, (lines (front ++ c :: rest)).head? = some (front ++ c :: tail) := by
  by_cases hm : '\n' ∈ rest
  · -- The line ends at the first line feed.
    obtain ⟨line, rest, rfl, hfirst⟩ := List.eq_append_cons_of_mem hm
    have hcut : '\n' ∉ front ++ c :: line := by simp [hfront, hfirst, Ne.symm hline]
    obtain ⟨tail, htail⟩ := exists_stripEnd_concat hreturn front line
    refine ⟨tail, ?_⟩
    rw [← List.cons_append, ← List.append_assoc, lines_line hcut, List.head?_cons, htail]
  · have hcut : '\n' ∉ front ++ c :: rest := by simp [hfront, hm, Ne.symm hline]
    refine ⟨rest, ?_⟩
    rw [lines, linesWithEnds_of_not_mem (by simp) hcut, List.map_singleton, List.head?_cons,
      stripEnd_of_not_mem hcut]

/-! ## What lines hold -/

/-- A text is blank if it holds nothing but white space. -/
theorem trim_eq_nil_iff {cs : List Char} : trim cs = [] ↔ ∀ c ∈ cs, isBlank c := by
  rw [trim, dropBothWhile, dropEndWhile_eq_nil_iff]
  constructor
  · intro h c hc
    rw [← List.takeWhile_append_dropWhile (p := isBlank) (l := cs), List.mem_append] at hc
    rcases hc with hc | hc
    · exact List.mem_takeWhile_imp hc
    · exact h c hc
  · intro h c hc
    exact h c ((List.dropWhile_sublist _).subset hc)

/-- The text without the carriage returns and line feeds at its end. -/
def IsContent (content cs : List Char) : Prop :=
  ∃ returns, cs = content ++ returns ∧ (∀ c ∈ returns, c = '\n' ∨ c = '\r') ∧
    ∀ c ∈ content.getLast?, c ≠ '\n' ∧ c ≠ '\r'

theorem isContent_iff {content cs : List Char} :
    IsContent content cs ↔ dropEndWhile isReturn cs = content := by
  have hreturn : ∀ c, isReturn c = true ↔ c = '\n' ∨ c = '\r' := by simp [isReturn]
  have hother : ∀ c, isReturn c = false ↔ c ≠ '\n' ∧ c ≠ '\r' := by simp [isReturn]
  unfold IsContent
  simp only [← hreturn, ← hother]
  constructor
  · rintro ⟨returns, rfl, hreturns, hlast⟩
    rw [dropEndWhile_append hreturns, dropEndWhile_eq_self_iff.2 hlast]
  · rintro rfl
    refine ⟨cs.rtakeWhile isReturn, ?_, fun c => List.mem_rtakeWhile_imp, ?_⟩
    · rw [dropEndWhile_eq_rdropWhile, List.rdropWhile_append_rtakeWhile]
    · rw [← dropEndWhile_eq_self_iff, dropEndWhile_eq_rdropWhile, dropEndWhile_eq_rdropWhile,
        List.rdropWhile_idempotent]

instance (content cs : List Char) : Decidable (IsContent content cs) :=
  decidable_of_iff _ isContent_iff.symm

/-! ## Lists of lines -/

/-- A list of lines as a text is cut into them: each ends in the only line feed it holds, except
that the last one may do without. -/
inductive IsLines : List (List Char) → Prop
  | nil : IsLines []
  | last {line : List Char} : line ≠ [] → '\n' ∉ line → IsLines [line]
  | cons {text : List Char} {ls : List (List Char)} :
      '\n' ∉ text → IsLines ls → IsLines ((text ++ ['\n']) :: ls)

theorem isLines_linesWithEnds (cs : List Char) : IsLines (linesWithEnds cs) := by
  induction cs with
  | nil => exact .nil
  | cons c cs ih =>
      rw [linesWithEnds]
      by_cases hc : c = '\n'
      · rw [if_pos hc]
        exact @IsLines.cons [] _ (by simp) ih
      · rw [if_neg hc]
        have hnot : '\n' ∉ [c] := by simpa using Ne.symm hc
        generalize linesWithEnds cs = ls at ih
        cases ih with
        | nil => exact .last (by simp) hnot
        | last hne hline => exact .last (by simp) (by simpa [hline] using Ne.symm hc)
        | @cons text ls htext hls =>
            exact @IsLines.cons (c :: text) ls (by simpa [htext] using Ne.symm hc) hls

/-- A line is not empty: it holds a line feed or stands at the end of a text that goes on after its
last one. -/
theorem IsLines.ne_nil {ls : List (List Char)} {line : List Char} (h : IsLines ls)
    (hline : line ∈ ls) : line ≠ [] := by
  induction h with
  | nil => cases hline
  | last hne _ =>
      rw [List.mem_singleton] at hline
      rw [hline]
      exact hne
  | cons _ _ ih =>
      rcases List.mem_cons.1 hline with rfl | hline
      · simp
      · exact ih hline

/-- A text that is put together from a list of lines is cut into them. -/
theorem IsLines.linesWithEnds_flatten {ls : List (List Char)} (h : IsLines ls) :
    linesWithEnds ls.flatten = ls := by
  induction h with
  | nil => rfl
  | last hne hline => rw [List.flatten_singleton, linesWithEnds_of_not_mem hne hline]
  | cons htext _ ih =>
      rw [List.flatten_cons, List.append_assoc, List.singleton_append, linesWithEnds_line htext, ih]

/-! ## Numbered lines -/

/-- The line with a number, counted from one, of the pieces that line feeds separate. -/
def lineAt? (cs : List Char) (number : Nat) : Option (List Char) :=
  if number = 0 then none else (cs.splitOn '\n')[number - 1]?

theorem length_splitOn (cs : List Char) : (cs.splitOn '\n').length = cs.count '\n' + 1 := by
  induction cs with
  | nil => rfl
  | cons c cs ih =>
      rw [List.splitOn_cons_eq_if_modifyHead, List.count_cons]
      by_cases hc : c == '\n'
      · rw [if_pos hc, if_pos hc, List.length_cons, ih]
      · rw [if_neg hc, if_neg hc, List.length_modifyHead, ih]

/-- Behind whole lines the numbers go on. -/
theorem lineAt?_append {cs : List Char} (h : WholeLines cs) (ds : List Char) {number : Nat}
    (hpos : 1 ≤ number) : lineAt? (cs ++ ds) (number + cs.count '\n') = lineAt? ds number := by
  rcases h with rfl | ⟨init, rfl⟩
  · rfl
  · have hcount : (init ++ ['\n']).count '\n' = init.count '\n' + 1 := by simp
    rw [lineAt?, lineAt?, if_neg (by omega), if_neg (by omega), hcount, List.append_assoc,
      List.singleton_append, List.splitOn_append_cons_self,
      List.getElem?_append_right (by rw [length_splitOn]; omega), length_splitOn]
    congr 1
    omega

/-! ## Written lines -/

/-- A line without the line feed that ends it; a carriage return before that is part of the text. -/
structure Line where
  text : List Char
  oneLine : '\n' ∉ text

/-- A line as it is written. -/
def Line.written (line : Line) : List Char :=
  line.text ++ ['\n']

/-- Lines that all have the same front are whole lines. -/
theorem wholeLines_flatMap (front : List Char) (ls : List Line) :
    WholeLines (ls.flatMap fun line => front ++ line.written) := by
  rcases List.eq_nil_or_concat ls with rfl | ⟨init, line, rfl⟩
  · exact wholeLines_nil
  · rw [List.concat_eq_append, List.flatMap_append, List.flatMap_singleton, Line.written,
      ← List.append_assoc, ← List.append_assoc]
    exact wholeLines_concat _

/-- Written lines are cut where they were put together. -/
theorem linesWithEnds_flatMap {front : List Char} (hfront : '\n' ∉ front) (ls : List Line) :
    linesWithEnds (ls.flatMap fun line => front ++ line.written) =
      ls.map fun line => front ++ line.written := by
  induction ls with
  | nil => rfl
  | cons line ls ih =>
      have hline : '\n' ∉ front ++ line.text := by simp [hfront, line.oneLine]
      rw [List.flatMap_cons, List.map_cons, Line.written, ← List.append_assoc, List.append_assoc,
        List.singleton_append, linesWithEnds_line hline, ih]

/-- The lines of written lines with a front are these lines, each without its end. -/
theorem lines_flatMap {front : List Char} (hfront : '\n' ∉ front) (ls : List Line) :
    lines (ls.flatMap fun line => front ++ line.written) =
      ls.map fun line => stripEnd (front ++ line.written) := by
  rw [lines, linesWithEnds_flatMap hfront, List.map_map]
  rfl

theorem lines_flatMap_written (ls : List Line) :
    lines (ls.flatMap Line.written) = ls.map fun line => stripEnd line.written :=
  lines_flatMap List.not_mem_nil ls

theorem wholeLines_flatMap_written (ls : List Line) : WholeLines (ls.flatMap Line.written) :=
  wholeLines_flatMap [] ls

end Folio.Text
