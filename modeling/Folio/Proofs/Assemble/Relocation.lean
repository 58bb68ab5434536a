import Folio.Assemble
import Folio.Proofs.Frontmatter.Extraction

/-!
# Places in the source

An error in the body of a document is reported at a line of the source.  It is the line that holds
the same text: what is cut off before the body is whole lines, and as many as are added.
-/

namespace Folio

open Folio.Text Folio.Frontmatter

/-! ## What stands before a body -/

namespace Frontmatter

theorem ofSource_of_parse {φ : Type} [Schema φ] {source : String} {parsed : Parsed φ}
    (h : parse source = .ok parsed) : Cut.ofSource source.toList = .ok parsed.cut := by
  obtain ⟨extraction, hextraction, h⟩ := bind_eq_ok_iff.1 h
  split at h
  · cases h
    exact (extract_eq_ok_iff.1 hextraction).1
  · cases h

/-- A sheet opens no block, or the line that closes its block ends in a line feed. -/
def Sheet.EndsBlock (sheet : Sheet) : Prop :=
  (∀ line ∈ sheet.lines.head?, ¬ IsContent fence line) ∨
    ∃ (block : Block) (rest : List (List Char)), sheet.lines = block.lines ++ rest ∧
      block.closer.getLast? = some '\n'

/-- Then whole lines stand before the body. -/
theorem wholeLines_head {sheet : Sheet} (h : sheet.EndsBlock) {cut : Cut}
    (hcut : Cut.ofSource sheet.text = .ok cut) : WholeLines cut.head := by
  rcases h with hnone | ⟨block, rest, hlines, hlast⟩
  · rw [Cut.ofSource_of_no_block sheet hnone] at hcut
    cases hcut
    exact wholeLines_nil
  · rw [Cut.ofSource_of_block sheet hlines] at hcut
    cases hcut
    obtain ⟨init, hcloser⟩ := List.getLast?_eq_some_iff.1 hlast
    have hhead : sheet.front ++ block.lines.flatten =
        sheet.front ++ block.opener ++ block.inside.flatten ++ init ++ ['\n'] := by
      simp [Block.lines, hcloser]
    rw [hhead]
    exact wholeLines_concat _

end Frontmatter

/-! ## Errors in a body -/

theorem Assembler.assemble_eq_error {φ : Type} [Schema φ] {a : Assembler} {source : String}
    {parsed : Parsed φ} (hparsed : Frontmatter.parse source = .ok parsed) {error : CompileError}
    (herror : a.pipeline.compile (String.ofList parsed.cut.body) = .error error) (path : String) :
    (a.assemble source path : Except CompileError (Compiled φ)) =
      .error (error.relocate (some path) parsed.cut.lineOffset) := by
  rw [assemble, hparsed]
  simp only [herror]

/-- A document whose frontmatter is read fails as its body does.  An error that has a place in the
body gets the path of the document and a line that is further down by the number of lines before the
body; every other error stays as it is.  If the source has no block, or the line that closes it ends
in a line feed, then that line of the source is the line of the body. -/
theorem assemble_relocates {φ : Type} [Schema φ] (a : Assembler) (source path : String)
    {parsed : Parsed φ} (hparsed : Frontmatter.parse source = .ok parsed) :
    (∀ error, a.pipeline.compile (String.ofList parsed.cut.body) = .error error →
      (∀ fault line column, error = .block fault { line, column } →
        (a.assemble source path : Except CompileError (Compiled φ)) =
          .error (.block fault
            { file := some path, line := line + parsed.cut.lineOffset, column })) ∧
      (∀ name line column, error = .component name { line, column } →
        (a.assemble source path : Except CompileError (Compiled φ)) =
          .error (.component name
            { file := some path, line := line + parsed.cut.lineOffset, column })) ∧
      ((∀ fault location, error ≠ .block fault location) →
        (∀ name location, error ≠ .component name location) →
        (a.assemble source path : Except CompileError (Compiled φ)) = .error error)) ∧
    ∀ sheet : Sheet, source = String.ofList sheet.text → sheet.EndsBlock → ∀ line, 1 ≤ line →
      lineAt? source.toList (line + parsed.cut.lineOffset) = lineAt? parsed.cut.body line := by
  refine ⟨fun error herror => ?_, fun sheet hsheet hends line hpos => ?_⟩
  · have hassemble := Assembler.assemble_eq_error hparsed herror path
    refine ⟨?_, ?_, fun hblock hcomponent => ?_⟩
    · rintro fault line column rfl
      exact hassemble
    · rintro name line column rfl
      exact hassemble
    · rw [hassemble]
      cases error with
      | block fault location => exact (hblock fault location rfl).elim
      | component name location => exact (hcomponent name location rfl).elim
      | _ => rfl
  · have hcut := ofSource_of_parse hparsed
    have hwhole : WholeLines parsed.cut.head := by
      refine wholeLines_head hends ?_
      rw [← hcut, hsheet, String.toList_ofList]
    rw [← Cut.head_append_body hcut]
    exact lineAt?_append hwhole parsed.cut.body hpos

/-- A page with a byte order mark and an empty line before its frontmatter, and a component. -/
def markedPage : String :=
  "\ufeff\n---\r\ntitle: a\ndescription: b\n---\r\nc\n\n<X />\n"

/-- The frontmatter of `markedPage`. -/
def pageBlock : Block where
  opener := "---\r\n".toList
  inside := ["title: a\n".toList, "description: b\n".toList]
  closer := "---\r\n".toList
  isContent_opener := by decide
  not_isContent_inside := by decide
  isContent_closer := by decide

/-- An assembler that looks components up and knows none. -/
def bareAssembler : Assembler where
  pipeline := ⟨{}, [.resolveComponents ∅], by decide⟩
  registry := ∅

theorem assemble_relocates_markedPage :
    (Sheet.ofSource markedPage.toList).EndsBlock ∧
    ∃ parsed : Parsed Page, Frontmatter.parse markedPage = .ok parsed ∧
      bareAssembler.pipeline.compile (String.ofList parsed.cut.body) =
        .error (.component "X" { line := 3, column := 1 }) ∧
      (bareAssembler.assemble markedPage "a.md" : Except CompileError (Compiled Page)) =
        .error (.component "X" { file := some "a.md", line := 8, column := 1 }) ∧
      lineAt? markedPage.toList 8 = lineAt? parsed.cut.body 3 := by
  have hlines : (Sheet.ofSource markedPage.toList).lines =
      pageBlock.lines ++ ["c\n".toList, "\n".toList, "<X />\n".toList] := by decide +kernel
  have hends : (Sheet.ofSource markedPage.toList).EndsBlock :=
    Or.inr ⟨pageBlock, _, hlines, by decide +kernel⟩
  have hok : (Frontmatter.parse markedPage : Except FrontmatterError (Parsed Page)).map
      (fun _ => ()) = .ok () := by decide +kernel
  obtain ⟨parsed, hparsed, -⟩ := map_eq_ok_iff.1 hok
  have hsource := ofSource_of_parse hparsed
  obtain ⟨hoffset, hbody⟩ : parsed.cut.lineOffset = 5 ∧
      parsed.cut.body = "c\n\n<X />\n".toList := by
    have hcut : (Cut.ofSource markedPage.toList).map (fun cut => (cut.lineOffset, cut.body)) =
        .ok (5, "c\n\n<X />\n".toList) := by decide +kernel
    rw [hsource] at hcut
    injection hcut with hcut
    exact Prod.ext_iff.1 hcut
  have herror : bareAssembler.pipeline.compile (String.ofList parsed.cut.body) =
      .error (.component "X" { line := 3, column := 1 }) := by
    rw [hbody, String.ofList_toList]
    have hfailed : (bareAssembler.pipeline.compile "c\n\n<X />\n").map (fun _ => ()) =
        .error (.component "X" { line := 3, column := 1 }) := by decide +kernel
    exact map_eq_error_iff.1 hfailed
  obtain ⟨hfails, hline⟩ := assemble_relocates bareAssembler markedPage "a.md" hparsed
  obtain ⟨-, hcomponent, -⟩ := hfails _ herror
  have hassemble := hcomponent "X" 3 1 rfl
  have hsame := hline _ (by rw [Sheet.text_ofSource, String.ofList_toList]) hends 3 (by decide)
  rw [hoffset] at hassemble hsame
  exact ⟨hends, parsed, hparsed, herror, hassemble, hsame⟩

end Folio
