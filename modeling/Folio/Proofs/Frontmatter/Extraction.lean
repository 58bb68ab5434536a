import Folio.Proofs.Frontmatter.Layout
import Folio.Proofs.Outcome

/-!
# What is read from a source

The mapping that a source starts with and the byte offset of its body, by the lines of the source:
only the first block counts, and nothing behind it.
-/

namespace Folio.Frontmatter

open Folio.Text

/-- The mapping of a source and the byte offset where its body starts. -/
def answer (source : String) : Except FrontmatterError (Dict Json × Nat) :=
  (extract source).map fun extraction => (extraction.value, extraction.cut.bodyStart)

/-- The mapping of what was cut off. -/
def Cut.value (cut : Cut) : Except FrontmatterError (Dict Json) :=
  match cut.block with
  | some block => valueOf block
  | none => .ok ∅

/-- A source is cut, and then what was cut off is read. -/
theorem extract_eq (source : String) :
    extract source =
      Cut.ofSource source.toList >>= fun cut => cut.value >>= fun value => pure { value, cut } := by
  rw [extract]
  cases Cut.ofSource source.toList with
  | error error => rfl
  | ok cut =>
      obtain ⟨head, _ | block, body⟩ := cut
      · rfl
      · rfl

theorem extract_eq_ok_iff {source : String} {extraction : Extraction} :
    extract source = .ok extraction ↔
      Cut.ofSource source.toList = .ok extraction.cut ∧
        extraction.cut.value = .ok extraction.value := by
  rw [extract_eq, bind_eq_ok_iff]
  constructor
  · rintro ⟨cut, hcut, h⟩
    obtain ⟨value, hvalue, rfl⟩ := bind_pure_eq_ok_iff.1 h
    exact ⟨hcut, hvalue⟩
  · rintro ⟨hcut, hvalue⟩
    exact ⟨_, hcut, bind_pure_eq_ok_iff.2 ⟨_, hvalue, rfl⟩⟩

theorem answer_ofList (source : List Char) :
    answer (String.ofList source) =
      Cut.ofSource source >>= fun cut => cut.value.map fun value => (value, cut.bodyStart) := by
  rw [answer, extract_eq, String.toList_ofList]
  cases Cut.ofSource source with
  | error error => rfl
  | ok cut =>
      show (cut.value >>= fun value => pure (Extraction.mk value cut)).map _ =
        cut.value.map fun value => (value, cut.bodyStart)
      cases cut.value with
      | error error => rfl
      | ok value => rfl

/-! ## Where the body starts -/

theorem byteSize_eq (cs : List Char) : byteSize cs = (String.ofList cs).utf8ByteSize := by
  induction cs with
  | nil => rfl
  | cons c cs ih => simp [byteSize, ih]

/-- The body starts between two characters or at an end of the source. -/
theorem isValid_of_answer {source : String} {value : Dict Json} {start : Nat}
    (h : answer source = .ok (value, start)) : (String.Pos.Raw.mk start).IsValid source := by
  obtain ⟨extraction, hextract, hanswer⟩ := map_eq_ok_iff.1 h
  cases hanswer
  obtain ⟨hcut, -⟩ := extract_eq_ok_iff.1 hextract
  rw [String.Pos.Raw.isValid_iff_exists_append]
  refine ⟨String.ofList extraction.cut.head, String.ofList extraction.cut.body, ?_, ?_⟩
  · rw [← String.ofList_append, Cut.head_append_body hcut, String.ofList_toList]
  · rw [Cut.bodyStart, byteSize_eq]
    rfl

/-! ## Other text behind a block -/

/-- Behind a line that ends in a line feed other lines can follow. -/
theorem isLines_replace {ls ms ns : List (List Char)} {line : List Char}
    (h : IsLines (ls ++ line :: ms)) (hline : '\n' ∈ line) (hns : IsLines ns) :
    IsLines (ls ++ line :: ns) := by
  induction ls with
  | nil =>
      rw [List.nil_append] at h ⊢
      cases h with
      | last _ hnone => exact (hnone hline).elim
      | cons htext _ => exact .cons htext hns
  | cons first ls ih =>
      rw [List.cons_append] at h ⊢
      generalize hrest : ls ++ line :: ms = rest at h
      cases h with
      | last _ _ => simp at hrest
      | cons htext hls =>
          subst hrest
          exact .cons htext (ih hls)

/-- A sheet with another text behind its block. -/
theorem Sheet.exists_replace {sheet : Sheet} {block : Block} {rest : List (List Char)}
    (hlines : sheet.lines = block.lines ++ rest) (hcloser : '\n' ∈ block.closer)
    (other : List Char) :
    ∃ sheet' : Sheet, sheet'.front = sheet.front ∧
      sheet'.lines = block.lines ++ linesWithEnds other := by
  have hcut : sheet.blanks ++ (block.lines ++ rest) =
      (sheet.blanks ++ block.opener :: block.inside) ++ block.closer :: rest := by
    simp [Block.lines]
  have hcut' : sheet.blanks ++ (block.lines ++ linesWithEnds other) =
      (sheet.blanks ++ block.opener :: block.inside) ++ block.closer :: linesWithEnds other := by
    simp [Block.lines]
  have hisLines := sheet.isLines
  have hmark := sheet.mark_cases
  have hvisible := sheet.visible_lines
  rw [hlines] at hisLines hmark hvisible
  rw [hcut] at hisLines
  -- The first character is one of the block's or stands before it.
  have hne : (sheet.blanks ++ block.lines).flatten ≠ [] := by
    have hmem : block.closer ∈ sheet.blanks ++ block.lines := by simp [Block.lines]
    intro hnil
    rw [List.flatten_eq_nil_iff] at hnil
    rw [hnil _ hmem] at hcloser
    cases hcloser
  rw [← List.append_assoc, List.flatten_append, List.head?_append_of_ne_nil _ hne] at hmark
  refine ⟨⟨sheet.mark, sheet.blanks, block.lines ++ linesWithEnds other, ?_, ?_,
    sheet.isBlank_blanks, hvisible⟩, rfl, rfl⟩
  · rw [← List.append_assoc, List.flatten_append, List.head?_append_of_ne_nil _ hne]
    exact hmark
  · rw [hcut']
    exact isLines_replace hisLines hcloser (isLines_linesWithEnds other)

/-! ## Answers by lines -/

/-- A source with a block: its mapping is what the lines inside write. -/
theorem answer_of_block {sheet : Sheet} {block : Block} {rest : List (List Char)}
    (hlines : sheet.lines = block.lines ++ rest) {yaml : List Char}
    (hyaml : IsContent yaml block.inside.flatten) :
    answer (String.ofList sheet.text) = (valueOf yaml).map fun value =>
      (value, (String.ofList (sheet.front ++ block.lines.flatten)).utf8ByteSize) := by
  rw [answer_ofList, Cut.ofSource_of_block sheet hlines, isContent_iff.1 hyaml, ← byteSize_eq]
  rfl

/-- Every source has its lines.  Without a line of three hyphens as the first that shows something
there is no block: the mapping is empty, and all is body.  With it, the block has to be closed by
another such line; the mapping is what the lines up to the first of these write, and the body starts
right behind it.  So the body starts at a place in the source, and if the closing line ends in a
line feed, what comes behind it has no part in the answer. -/
theorem answer_of_sheet :
    (∀ source : String, ∃ sheet : Sheet, source = String.ofList sheet.text) ∧
    (∀ sheet : Sheet, (∀ line ∈ sheet.lines.head?, ¬ IsContent fence line) →
      answer (String.ofList sheet.text) = .ok (∅, 0)) ∧
    (∀ (sheet : Sheet) (opener : List Char) (rest : List (List Char)),
      sheet.lines = opener :: rest → IsContent fence opener →
      (∀ line ∈ rest, ¬ IsContent fence line) →
      answer (String.ofList sheet.text) = .error .unterminated) ∧
    (∀ (sheet : Sheet) (block : Block) (rest : List (List Char)),
      sheet.lines = block.lines ++ rest →
      (∀ yaml, IsContent yaml block.inside.flatten →
        answer (String.ofList sheet.text) = (valueOf yaml).map fun value =>
          (value, (String.ofList (sheet.front ++ block.lines.flatten)).utf8ByteSize)) ∧
      ('\n' ∈ block.closer → ∀ other : List Char,
        answer (String.ofList (sheet.front ++ block.lines.flatten ++ other)) =
          answer (String.ofList sheet.text))) ∧
    ∀ (source : String) (value : Dict Json) (start : Nat), answer source = .ok (value, start) →
      start ≤ source.utf8ByteSize ∧ (String.Pos.Raw.mk start).IsValid source := by
  refine ⟨fun source => ?_, fun sheet hnone => ?_, fun sheet opener rest hlines hopener hrest => ?_,
    fun sheet block rest hlines => ⟨fun yaml => answer_of_block hlines, fun hcloser other => ?_⟩,
    fun source value start h => ?_⟩
  · exact ⟨Sheet.ofSource source.toList, by rw [Sheet.text_ofSource, String.ofList_toList]⟩
  · rw [answer_ofList, Cut.ofSource_of_no_block sheet hnone]
    rfl
  · rw [answer_ofList, Cut.ofSource_of_unclosed sheet hlines hopener hrest]
    rfl
  · obtain ⟨sheet', hfront, hlines'⟩ := Sheet.exists_replace hlines hcloser other
    have htext : sheet.front ++ block.lines.flatten ++ other = sheet'.text := by
      rw [Sheet.text, hfront, hlines', List.flatten_append, flatten_linesWithEnds,
        List.append_assoc]
    have hyaml : IsContent (dropEndWhile isReturn block.inside.flatten) block.inside.flatten :=
      isContent_iff.2 rfl
    rw [htext, answer_of_block hlines hyaml, answer_of_block hlines' hyaml, hfront]
  · have hvalid := isValid_of_answer h
    exact ⟨hvalid.le_utf8ByteSize, hvalid⟩

/-- A source without a block. -/
def plainSheet : Sheet :=
  Sheet.ofSource [' ', '\n', '-', '-', '-', '-', '\n']

/-- A source with a block that is not closed. -/
def openSheet : Sheet :=
  Sheet.ofSource ['-', '-', '-', '\n', 'a', '\n', ' ', '-', '-', '-']

/-- A source with a byte order mark, a line of white space, a block that ends in an empty line, and
a body. -/
def markedSheet : Sheet :=
  Sheet.ofSource ['\ufeff', ' ', '\n', '-', '-', '-', '\r', '\n', 'a', ':', ' ', 'b', '\n', '\r',
    '\n', '-', '-', '-', '\r', '\n', 'c', '\n', '-', '-', '-']

/-- The block of `markedSheet`. -/
def markedBlock : Block where
  opener := ['-', '-', '-', '\r', '\n']
  inside := [['a', ':', ' ', 'b', '\n'], ['\r', '\n']]
  closer := ['-', '-', '-', '\r', '\n']
  isContent_opener := by decide
  not_isContent_inside := by decide
  isContent_closer := by decide

theorem answer_of_markedSheet :
    (∀ line ∈ plainSheet.lines.head?, ¬ IsContent fence line) ∧
    answer (String.ofList plainSheet.text) = .ok (∅, 0) ∧
    openSheet.lines = [['-', '-', '-', '\n'], ['a', '\n'], [' ', '-', '-', '-']] ∧
    answer (String.ofList openSheet.text) = .error .unterminated ∧
    markedSheet.lines = markedBlock.lines ++ [['c', '\n'], ['-', '-', '-']] ∧
    IsContent ['a', ':', ' ', 'b'] markedBlock.inside.flatten ∧ '\n' ∈ markedBlock.closer ∧
    answer (String.ofList markedSheet.text) =
      (valueOf ['a', ':', ' ', 'b']).map (fun value => (value, 22)) ∧
    answer (String.ofList (markedSheet.front ++ markedBlock.lines.flatten ++ ['d'])) =
      answer (String.ofList markedSheet.text) ∧
    0 ≤ (String.ofList plainSheet.text).utf8ByteSize ∧
    (String.Pos.Raw.mk 0).IsValid (String.ofList plainSheet.text) := by
  obtain ⟨-, hplain, hopen, hblock, hvalid⟩ := answer_of_sheet
  have hnone : ∀ line ∈ plainSheet.lines.head?, ¬ IsContent fence line := by decide
  have hlines : openSheet.lines = [['-', '-', '-', '\n'], ['a', '\n'], [' ', '-', '-', '-']] := by
    decide
  have hcut : markedSheet.lines = markedBlock.lines ++ [['c', '\n'], ['-', '-', '-']] := by decide
  have hyaml : IsContent ['a', ':', ' ', 'b'] markedBlock.inside.flatten := by decide
  have hcloser : '\n' ∈ markedBlock.closer := by decide
  obtain ⟨hanswer, hreplace⟩ := hblock markedSheet markedBlock _ hcut
  exact ⟨hnone, hplain plainSheet hnone, hlines,
    hopen openSheet _ _ hlines (by decide) (by decide), hcut, hyaml, hcloser,
    hanswer _ hyaml, hreplace hcloser ['d'], hvalid _ _ _ (hplain plainSheet hnone)⟩

end Folio.Frontmatter
