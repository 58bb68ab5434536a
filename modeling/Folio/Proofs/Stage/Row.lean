import Folio.Proofs.Stage.Renewal
import Folio.Proofs.Stage.Shape
import Folio.Proofs.Text.Line

/-!
# What rows say

Highlighting shows each line of a block in a row of tokens, with the line ending behind it.
Carriage returns and line feeds at the end of any token are left out, and one line ending is put
back for each line.  So where the tokens of a line join to it, the text of a block stays the same
exactly if in each line no more is left out than is put back.  That is so for every way to cut
tokens if each carriage return stands directly before a line feed.
-/

namespace Folio

open Folio.Text

/-! ## Tokens -/

/-- What the tokens of a row say. -/
def shownText (tokens : List Token) : List Char :=
  tokens.flatMap fun token => dropEndWhile isReturn token.text

/-- What is left out of a row: the carriage returns and line feeds at the ends of its tokens. -/
def leftOut (tokens : List Token) : List Char :=
  tokens.flatMap fun token => token.text.rtakeWhile isReturn

/-- What the tokens of a row were cut from. -/
def joinedText (tokens : List Token) : List Char :=
  tokens.flatMap Token.text

theorem shownText_cons (token : Token) (tokens : List Token) :
    shownText (token :: tokens) = dropEndWhile isReturn token.text ++ shownText tokens :=
  List.flatMap_cons

theorem joinedText_cons (token : Token) (tokens : List Token) :
    joinedText (token :: tokens) = token.text ++ joinedText tokens :=
  List.flatMap_cons

theorem leftOut_cons (token : Token) (tokens : List Token) :
    leftOut (token :: tokens) = token.text.rtakeWhile isReturn ++ leftOut tokens :=
  List.flatMap_cons

/-- A token is shown or left out, each part of it. -/
theorem length_shownText (tokens : List Token) :
    (shownText tokens).length + (leftOut tokens).length = (joinedText tokens).length := by
  induction tokens with
  | nil => rfl
  | cons token tokens ih =>
      have htoken := congrArg List.length
          (dropEndWhile_append_rtakeWhile (p := isReturn) token.text)
      rw [List.length_append] at htoken
      rw [shownText_cons, leftOut_cons, joinedText_cons, List.length_append, List.length_append,
        List.length_append]
      omega

/-- Nothing is left out but carriage returns and line feeds. -/
theorem length_leftOut_le (tokens : List Token) :
    (leftOut tokens).length ≤ (joinedText tokens).countP isReturn := by
  induction tokens with
  | nil => exact Nat.le_refl 0
  | cons token tokens ih =>
      have hend : (token.text.rtakeWhile isReturn).length ≤ token.text.countP isReturn := by
        have hall : ∀ c ∈ token.text.rtakeWhile isReturn, isReturn c :=
          fun c hc => List.mem_rtakeWhile_imp hc
        rw [← List.countP_eq_length.2 hall]
        exact (List.rtakeWhile_suffix isReturn token.text).sublist.countP_le
      rw [leftOut_cons, joinedText_cons, List.length_append, List.countP_append]
      omega

/-- The row of a text says no more than the text without the line ends behind it. -/
theorem shownText_sublist (tokens : List Token) :
    (shownText tokens).Sublist (dropEndWhile isReturn (joinedText tokens)) := by
  induction tokens with
  | nil => exact .slnil
  | cons token tokens ih =>
      rw [shownText_cons, joinedText_cons]
      -- If the other tokens are line ends only, then those of this token are at the end as well.
      by_cases hrest : dropEndWhile isReturn (joinedText tokens) = []
      · rw [hrest, List.sublist_nil] at ih
        rw [ih, List.append_nil, dropEndWhile_append (dropEndWhile_eq_nil_iff.1 hrest)]
      · rw [dropEndWhile_append_of_ne_nil hrest]
        exact (sublist_dropEndWhile token.text).append ih

/-! ## Lines -/

/-- What ends a line. -/
def ending (line : List Char) : List Char :=
  ((lineEnding? line).getD "").toList

/-- A line is what stands before its ending, and the ending. -/
theorem exists_append_ending (line : List Char) :
    ∃ front, line = front ++ ending line ∧ ∀ c ∈ ending line, isReturn c := by
  have hend : ∀ {r : List Char} (e : List Char), line.reverse = e ++ r →
      line = r.reverse ++ e.reverse := by
    intro r e h
    rw [← List.reverse_reverse line, h, List.reverse_append]
  unfold ending lineEnding?
  split
  · rename_i r h
    exact ⟨r.reverse, hend ['\n', '\r'] h, by simp [isReturn]⟩
  · rename_i r _ h
    exact ⟨r.reverse, hend ['\n'] h, by simp [isReturn]⟩
  · exact ⟨line, (List.append_nil line).symm, by simp⟩

/-- In a row as much is left out as is put back. -/
def Restored (line : List Char) (tokens : List Token) : Prop :=
  (leftOut tokens).length = (ending line).length

section

variable {line : List Char} {tokens : List Token} (hjoined : joinedText tokens = line)
include hjoined

/-- Before its ending a line holds all that its row says. -/
theorem exists_shownText_sublist : ∃ front, line = front ++ ending line ∧
    (shownText tokens).Sublist front := by
  obtain ⟨front, hline, hending⟩ := exists_append_ending line
  refine ⟨front, hline, ?_⟩
  have hshown := shownText_sublist tokens
  rw [hjoined, hline, dropEndWhile_append hending] at hshown
  exact hshown.trans (sublist_dropEndWhile front)

theorem row_sublist : (shownText tokens ++ ending line).Sublist line := by
  obtain ⟨front, hline, hshown⟩ := exists_shownText_sublist hjoined
  conv_rhs => rw [hline]
  exact hshown.append (.refl _)

/-- A row and its ending say what the line says exactly if as much is put back as was left out. -/
theorem row_eq_iff : shownText tokens ++ ending line = line ↔ Restored line tokens := by
  obtain ⟨front, hline, hshown⟩ := exists_shownText_sublist hjoined
  have hlength := length_shownText tokens
  have hfront : line.length = front.length + (ending line).length := by
    rw [← List.length_append, ← hline]
  rw [hjoined] at hlength
  -- The row is a part of the line before its ending, so the lengths decide.
  have heq : shownText tokens ++ ending line = line ↔ shownText tokens = front := by
    conv_lhs => rhs; rw [hline]
    exact List.append_left_inj _
  rw [heq, ← hshown.length_eq, Restored]
  omega

/-- If a line holds no carriage return before its ending, then no more is left out than the
ending. -/
theorem restored_of_clean (hclean : line.countP isReturn = (ending line).length) :
    Restored line tokens := by
  have hleft := length_leftOut_le tokens
  have hlength := length_shownText tokens
  have hrow := (row_sublist hjoined).length_le
  rw [hjoined] at hleft hlength
  rw [List.length_append] at hrow
  rw [Restored]
  omega

end

/-! ## Blocks -/

/-- In each of the lines that follow `before` as much is left out as is put back. -/
def AllRestored (tokenize : List (List Char) → List Char → Except String (List Token))
    (before : List (List Char)) : List (List Char) → Prop
  | [] => True
  | line :: lines =>
    (∀ tokens, tokenize before line = .ok tokens → Restored line tokens) ∧
      AllRestored tokenize (before ++ [line]) lines

theorem content_filterMap_tokenNode? (tokens : List Token) :
    content (tokens.filterMap tokenNode?) = String.ofList (shownText tokens) := by
  induction tokens with
  | nil => rfl
  | cons token tokens ih =>
      rw [List.filterMap_cons, shownText_cons, String.ofList_append, ← ih]
      by_cases hempty : dropEndWhile isReturn token.text = []
      · simp [tokenNode?, hempty]
      · simp [tokenNode?, hempty]

theorem content_rowNodes (number : Nat) (line : List Char) (tokens : List Token) :
    content (rowNodes number line tokens) = String.ofList (shownText tokens ++ ending line) := by
  rw [rowNodes, content_element, content_filterMap_tokenNode?, String.ofList_append, ending]
  cases lineEnding? line with
  | none => rfl
  | some text => simp

/-- Two texts join to the same as two texts that they are parts of exactly if both are the same. -/
theorem append_eq_append_iff_of_sublist {a b c d : List Char} (hab : a.Sublist b)
    (hcd : c.Sublist d) : a ++ c = b ++ d ↔ a = b ∧ c = d := by
  constructor
  · intro h
    have hlength := congrArg List.length h
    rw [List.length_append, List.length_append] at hlength
    have hable := hab.length_le
    have hcdle := hcd.length_le
    exact ⟨hab.eq_of_length (by omega), hcd.eq_of_length (by omega)⟩
  · rintro ⟨rfl, rfl⟩
    rfl

/-- The rows of some lines say no more than the lines, and the same exactly if in each of them as
much is put back as was left out. -/
theorem content_rowsFrom {tokenize : List (List Char) → List Char → Except String (List Token)}
    (hwhole : ∀ before line tokens, tokenize before line = .ok tokens → joinedText tokens = line)
    {before lines : List (List Char)} {rows : List Node}
    (h : rowsFrom tokenize before lines = .ok rows) :
    (content rows).toList.Sublist lines.flatten ∧
      ((content rows).toList = lines.flatten ↔ AllRestored tokenize before lines) := by
  induction lines generalizing before rows with
  | nil =>
      cases h
      exact ⟨.slnil, fun _ => trivial, fun _ => rfl⟩
  | cons line lines ih =>
      obtain ⟨tokens, rest, htokens, hrest, rfl⟩ := bind_bind_pure_eq_ok_iff.1 h
      obtain ⟨hsub, hiff⟩ := ih hrest
      have hjoined := hwhole before line tokens htokens
      have hrow := row_sublist hjoined
      have htext : (content (rowNodes (before.length + 1) line tokens ++ rest)).toList =
          (shownText tokens ++ ending line) ++ (content rest).toList := by
        rw [content_append, content_rowNodes, String.toList_append, String.toList_ofList]
      have hline : (∀ tokens, tokenize before line = .ok tokens → Restored line tokens) ↔
          Restored line tokens := by
        constructor
        · exact fun hall => hall tokens htokens
        · intro hrestored other hother
          rw [htokens] at hother
          cases hother
          exact hrestored
      rw [htext, List.flatten_cons, AllRestored, hline, ← row_eq_iff hjoined, ← hiff]
      exact ⟨hrow.append hsub, append_eq_append_iff_of_sublist hrow hsub⟩

/-! ## Highlighted blocks -/

/-- A highlighter that cuts each line into tokens that join to it. -/
def Highlighter.Whole (highlighter : Highlighter) : Prop :=
  ∀ language before line tokens, highlighter.tokenize language before line = .ok tokens →
    joinedText tokens = line

/-- In each line of a `code` the highlighter leaves out as much as is put back. -/
def Highlighter.Restores (highlighter : Highlighter) (code : Element) : Prop :=
  AllRestored (highlighter.tokenize (codeLanguage? code.head)) []
    (linesWithEnds (content code.children).toList)

/-- A `code` in which each carriage return stands directly before a line feed: no line holds more of
them than its ending. -/
def CleanReturns (code : Element) : Prop :=
  ∀ line ∈ linesWithEnds (content code.children).toList,
    line.countP isReturn = (ending line).length

instance (code : Element) : Decidable (CleanReturns code) :=
  inferInstanceAs (Decidable (∀ line ∈ linesWithEnds (content code.children).toList,
    line.countP isReturn = (ending line).length))

theorem Highlighter.whole_plain (theme : Theme) : (Highlighter.plain theme).Whole := by
  intro language before line tokens h
  rw [tokenize_plain] at h
  cases h
  cases line with
  | nil => rfl
  | cons c line => exact List.append_nil (c :: line)

section

variable {highlighter : Highlighter} (hwhole : highlighter.Whole)
include hwhole

theorem allRestored_of_clean (language : Option String) {lines : List (List Char)}
    (hclean : ∀ line ∈ lines, line.countP isReturn = (ending line).length)
    (before : List (List Char)) : AllRestored (highlighter.tokenize language) before lines := by
  induction lines generalizing before with
  | nil => trivial
  | cons line lines ih =>
      rw [List.forall_mem_cons] at hclean
      refine ⟨fun tokens htokens => ?_, ih hclean.2 _⟩
      exact restored_of_clean (hwhole language before line tokens htokens) hclean.1

/-- The rows of a `code` say what it said exactly if in each line as much is put back as was left
out. -/
theorem content_highlightCode {head : ElementHead} {code : Element} {new : NewCode}
    (h : highlightCode highlighter head code = .ok (some new)) :
    content new.body = content code.children ↔ highlighter.Restores code := by
  obtain ⟨-, rows, hrows, rfl⟩ := highlightCode_eq_some_iff.1 h
  obtain ⟨-, hiff⟩ := content_rowsFrom (hwhole (codeLanguage? code.head)) hrows
  rw [flatten_linesWithEnds] at hiff
  exact String.toList_inj.symm.trans hiff

end

theorem highlightCode_ne_none {highlighter : Highlighter} {head : ElementHead} {code : Element}
    (h : highlightCode highlighter head code = .ok none) : head.tag ≠ "pre" := by
  unfold highlightCode at h
  split at h
  · simp only at h
    split at h
    · cases h
    · cases h
  · assumption

/-- Highlighting a tree with a highlighter that cuts every line gives a tree.  Its blocks come, in
order, from blocks of the old tree, and from all of them if no block is part of the code of another
one.  If the tokens of each line join to it, then the `code` of a block says the same as before
exactly if in each line no more carriage returns and line feeds are left out than the line ending
has; and that is so if each carriage return of the text stands directly before a line feed. -/
theorem content_highlightTree {highlighter : Highlighter} (hwhole : highlighter.Whole) (t : Tree) :
    (highlighter.Total → ∃ u, highlightTree highlighter t = .ok u) ∧
    (∀ u, highlightTree highlighter t = .ok u → Traces
      (fun block block' => ∃ code code', codeChild? block.children = some code ∧
        codeChild? block'.children = some code' ∧
        (content code'.children = content code.children ↔ highlighter.Restores code))
      (FlatBlocks t) (blocks t) (blocks u)) ∧
    ∀ code, CleanReturns code → highlighter.Restores code := by
  refine ⟨fun htotal => exists_highlightTree htotal t, fun u hu => ?_, fun code hclean =>
    allRestored_of_clean hwhole (codeLanguage? code.head) hclean []⟩
  have hsome : ∀ head code new, highlightCode highlighter head code = .ok (some new) →
      head.tag = "pre" ∧ new.head.tag = head.tag ∧ Spans new.body := by
    intro head code new hnew
    obtain ⟨hpre, htag, hspans, -⟩ := highlightCode_eq_ok hnew
    exact ⟨hpre, htag, hspans⟩
  have htraces := (renews hsome (fun _ _ => highlightCode_ne_none) t).all u hu
  refine htraces.mono fun block block' hrenewed => ?_
  obtain ⟨code, new, hcode, hnew, -, hcode'⟩ := hrenewed
  exact ⟨code, ⟨code.head, new.body⟩, hcode, hcode', content_highlightCode hwhole hnew⟩

/-- A code block with a text. -/
def textBlock (text : String) : Tree :=
  [.element (.ofTag "pre") [.element (.ofTag "code") [.text text]]]

theorem content_highlightTree_crlfLines :
    let highlighter := Highlighter.plain ⟨"paper", "#ffffff", "#323232"⟩
    highlighter.Whole ∧ ∃ u block code, highlightTree highlighter (textBlock "a\r\nb\n") = .ok u ∧
      blocks u = [block] ∧ codeChild? block.children = some code ∧
      content code.children = "a\r\nb\n" := by
  intro highlighter
  have hwhole : highlighter.Whole := Highlighter.whole_plain _
  obtain ⟨hexists, htraces, hclean⟩ := content_highlightTree hwhole (textBlock "a\r\nb\n")
  obtain ⟨u, hu⟩ := hexists (Highlighter.total_plain _)
  have hflat : FlatBlocks (textBlock "a\r\nb\n") := by
    simp [textBlock, FlatBlocks, isCodeBlock, codeChild?_element]
  obtain ⟨kept, -, hrel, hall⟩ := htraces u hu
  have hblocks : blocks (textBlock "a\r\nb\n") =
      [⟨.ofTag "pre", [.element (.ofTag "code") [.text "a\r\nb\n"]]⟩] := rfl
  rw [hall hflat, hblocks] at hrel
  obtain ⟨block, rest, ⟨code, code', hcode, hcode', htext⟩, hrest, hnew⟩ :=
    List.forall₂_cons_left_iff.1 hrel
  rw [List.forall₂_nil_left_iff.1 hrest] at hnew
  cases hcode
  exact ⟨hwhole, u, block, code', hu, hnew, hcode', htext.2 (hclean _ (by decide))⟩

/-- A line with two carriage returns before its line feed loses one of them. -/
theorem not_content_highlightTree_strayReturn :
    let highlighter := Highlighter.plain ⟨"paper", "#ffffff", "#323232"⟩
    highlighter.Whole ∧ ∃ u block code, highlightTree highlighter (textBlock "a\r\r\nb\n") = .ok u ∧
      blocks u = [block] ∧ codeChild? block.children = some code ∧
      content code.children = "a\r\nb\n" ∧ content code.children ≠ "a\r\r\nb\n" :=
  ⟨Highlighter.whole_plain _, _, _, _, rfl, rfl, rfl, rfl, by decide⟩

end Folio
