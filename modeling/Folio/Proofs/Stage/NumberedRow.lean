import Folio.Proofs.Stage.Row

/-!
# Rows and lines

Code in no language, or in one without a grammar, is shown as plain text.  All that is asked of the
grammar of plain text is that it makes one token of a line.  Then there is a row for each line, with
one token that holds the line up to its end, and behind the row stands what ended the line.  So the
rows of such a block are the lines of its text, numbered from one.
-/

namespace Folio

open Folio.Text

/-! ## What a row is -/

/-- The only token of a row of plain text, or no token where there is no text. -/
inductive HoldsText : List Char → List Node → Prop
  | nothing : HoldsText [] []
  | token {text : List Char} {head : ElementHead} : text ≠ [] → head.tag = "span" →
      HoldsText text [.element head [.text (String.ofList text)]]

/-- A row that shows a line under a number. -/
structure IsRow (line : List Char) (number : Nat) (row : Element) : Prop where
  tag : row.head.tag = "span"
  class_ : row.head.attribute? "class" = some "line"
  number : row.head.attribute? "data-line" = some (toString number)
  holds : ∃ text, IsContent text line ∧ HoldsText text row.children

/-- The texts behind a row: what ends its line, if something does. -/
inductive IsEnding : List Char → List Node → Prop
  | crlf (front : List Char) : IsEnding (front ++ ['\r', '\n']) [.text "\r\n"]
  | lf {front : List Char} : front.getLast? ≠ some '\r' → IsEnding (front ++ ['\n']) [.text "\n"]
  | none {line : List Char} : line.getLast? ≠ some '\n' → IsEnding line []

/-- The nodes of rows, each with what stands behind it. -/
def rowsNodes (rows : List (Element × List Node)) : List Node :=
  rows.flatMap fun row => .element row.1.head row.1.children :: row.2

/-- The nodes are rows that show the lines, numbered from one, each with its line ending behind
it. -/
def ShowsLines (lines : List (List Char)) (nodes : List Node) : Prop :=
  ∃ rows, nodes = rowsNodes rows ∧ List.Forall₂
    (fun (line : List Char × Nat) row => IsRow line.1 line.2 row.1 ∧ IsEnding line.1 row.2)
    (lines.zipIdx 1) rows

/-- The elements among some nodes. -/
def childElements (nodes : List Node) : List Element :=
  nodes.filterMap fun
    | .element head children => some ⟨head, children⟩
    | _ => none

/-! ## Rows of plain text -/

/-- A grammar that makes one token of each line.  A line is never empty, and nothing is asked of
what the grammar makes of nothing. -/
def Grammar.OneToken (grammar : Grammar) : Prop :=
  ∀ theme before line, line ≠ [] → ∃ style, grammar theme before line = .ok [⟨style, line⟩]

theorem SyntaxSet.oneToken_plain : SyntaxSet.plain.plainText.OneToken := by
  intro theme before line hline
  exact ⟨{ color := theme.foreground }, by simp [SyntaxSet.plain, hline]⟩

theorem holdsText_tokenNode? (style : TokenStyle) (line : List Char) :
    HoldsText (dropEndWhile isReturn line) ([⟨style, line⟩].filterMap tokenNode?) := by
  by_cases hempty : dropEndWhile isReturn line = []
  · simp only [tokenNode?, hempty, List.filterMap_cons]
    exact .nothing
  · have hshown : (dropEndWhile isReturn line).isEmpty = false := by simpa using hempty
    simp only [tokenNode?, hshown, List.filterMap_cons]
    exact .token hempty rfl

theorem isEnding_lineEnding? (line : List Char) :
    IsEnding line ((lineEnding? line).toList.map .text) := by
  rcases List.eq_nil_or_concat line with rfl | ⟨front, c, rfl⟩
  · exact .none (by simp)
  · by_cases hc : c = '\n'
    · subst hc
      rcases List.eq_nil_or_concat front with rfl | ⟨init, d, rfl⟩
      · exact @IsEnding.lf [] (by simp)
      · by_cases hd : d = '\r'
        · subst hd
          simpa [lineEnding?] using IsEnding.crlf init
        · have hlast : (init.concat d).getLast? ≠ some '\r' := by simpa using hd
          simpa [lineEnding?, hd] using IsEnding.lf hlast
    · have hlast : (front.concat c).getLast? ≠ some '\n' := by simpa using hc
      simpa [lineEnding?, hc] using IsEnding.none hlast

/-- The row of a line of plain text shows the line under its number. -/
theorem exists_rowNodes (style : TokenStyle) (line : List Char) (number : Nat) :
    ∃ row ending, rowNodes number line [⟨style, line⟩] = rowsNodes [(row, ending)] ∧
      IsRow line number row ∧ IsEnding line ending := by
  let head := ((ElementHead.ofTag "span").setAttribute "class" "line").setAttribute "data-line"
    (toString number)
  refine ⟨⟨head, [⟨style, line⟩].filterMap tokenNode?⟩, (lineEnding? line).toList.map .text, ?_, ?_,
    isEnding_lineEnding? line⟩
  · simp [rowNodes, rowsNodes, head]
  · constructor
    · rfl
    · simp [head, ElementHead.attribute?_setAttribute]
    · simp [head, ElementHead.attribute?_setAttribute]
    · exact ⟨_, isContent_iff.2 rfl, holdsText_tokenNode? style line⟩

/-- The rows of the lines that follow others show these lines, and their numbers go on. -/
theorem rowsNodes_of_rowsFrom {tokenize : List (List Char) → List Char → Except String (List Token)}
    {before lines : List (List Char)} {nodes : List Node}
    (hplain : ∀ line ∈ lines, ∀ before, ∃ style, tokenize before line = .ok [⟨style, line⟩])
    (h : rowsFrom tokenize before lines = .ok nodes) :
    ∃ rows, nodes = rowsNodes rows ∧ List.Forall₂
      (fun (line : List Char × Nat) row => IsRow line.1 line.2 row.1 ∧ IsEnding line.1 row.2)
      (lines.zipIdx (before.length + 1)) rows := by
  induction lines generalizing before nodes with
  | nil =>
      cases h
      exact ⟨[], rfl, .nil⟩
  | cons line lines ih =>
      obtain ⟨tokens, rest, htokens, hrest, rfl⟩ := bind_bind_pure_eq_ok_iff.1 h
      rw [List.forall_mem_cons] at hplain
      obtain ⟨style, hstyle⟩ := hplain.1 before
      rw [hstyle] at htokens
      cases htokens
      obtain ⟨row, ending, hnodes, hrow⟩ := exists_rowNodes style line (before.length + 1)
      -- The line has joined the ones before, so the next number is one more.
      obtain ⟨rows, rfl, hrows⟩ := ih hplain.2 hrest
      rw [List.length_append, List.length_singleton] at hrows
      refine ⟨(row, ending) :: rows, ?_, ?_⟩
      · rw [hnodes]
        simp [rowsNodes]
      · rw [List.zipIdx_cons]
        exact .cons hrow hrows

theorem childElements_append (nodes others : List Node) :
    childElements (nodes ++ others) = childElements nodes ++ childElements others :=
  List.filterMap_append

/-- What stands behind a row is no element. -/
theorem IsEnding.childElements_eq_nil {line : List Char} {ending : List Node}
    (h : IsEnding line ending) : childElements ending = [] := by
  cases h <;> rfl

/-- There are as many elements as lines. -/
theorem ShowsLines.childElements_length {lines : List (List Char)} {nodes : List Node}
    (h : ShowsLines lines nodes) : (childElements nodes).length = lines.length := by
  obtain ⟨rows, rfl, hrows⟩ := h
  have helements : childElements (rowsNodes rows) = rows.map Prod.fst := by
    have hendings : ∀ row ∈ rows, childElements row.2 = [] := by
      intro row hrow
      obtain ⟨i, hi, rfl⟩ := List.mem_iff_getElem.1 hrow
      have hlength := hrows.length_eq
      exact (hrows.get (by omega) hi).2.childElements_eq_nil
    clear hrows
    induction rows with
    | nil => rfl
    | cons row rows ih =>
        rw [List.forall_mem_cons] at hendings
        have hrow : rowsNodes (row :: rows) =
            [.element row.1.head row.1.children] ++ (row.2 ++ rowsNodes rows) := by
          simp [rowsNodes]
        rw [hrow, childElements_append, childElements_append, hendings.1, ih hendings.2]
        rfl
  rw [helements, List.length_map, ← hrows.length_eq, List.length_zipIdx]

/-! ## Highlighted blocks -/

/-- A `code` in no language, or in one that a set has no grammar for. -/
def IsPlain (set : SyntaxSet) (code : Element) : Prop :=
  ∀ name ∈ codeLanguage? code.head, set.Unknown name

instance (set : SyntaxSet) (code : Element) : Decidable (IsPlain set code) :=
  inferInstanceAs (Decidable (∀ name ∈ codeLanguage? code.head, set.Unknown name))

/-- A block and what highlighting makes of it: if its code is plain, then the children of the new
`code` are the numbered rows of the lines of its text and their endings, and nothing else. -/
def ShowsText (set : SyntaxSet) (block block' : Element) : Prop :=
  ∃ code code', codeChild? block.children = some code ∧ codeChild? block'.children = some code' ∧
    (IsPlain set code → ∀ lines, IsLines lines →
      content code.children = String.ofList lines.flatten →
        ShowsLines lines code'.children ∧ (childElements code'.children).length = lines.length)

/-- A block and what highlighting makes of it: if no language is noted on it, then readers see the
same language as before, or `plaintext` where they saw none. -/
def KeepsLanguage (block block' : Element) : Prop :=
  ∃ view view', codeBlock? block = some view ∧ codeBlock? block' = some view' ∧
    (block.head.attribute? "data-language" = none →
      view'.language = some (view.language.getD "plaintext"))

/-- The blocks of a highlighted tree are blocks of the old tree with their code shown in rows. -/
theorem traces_highlightTree {highlighter : Highlighter} {t u : Tree}
    (h : highlightTree highlighter t = .ok u) :
    Traces (Renewed (highlightCode highlighter)) (FlatBlocks t) (blocks t) (blocks u) := by
  have hsome : ∀ head code new, highlightCode highlighter head code = .ok (some new) →
      head.tag = "pre" ∧ new.head.tag = head.tag ∧ Spans new.body := by
    intro head code new hnew
    obtain ⟨hpre, htag, hspans, -⟩ := highlightCode_eq_ok hnew
    exact ⟨hpre, htag, hspans⟩
  exact (renews hsome (fun _ _ => highlightCode_ne_none) t).all u h

section

variable {highlighter : Highlighter} (htoken : highlighter.syntaxes.plainText.OneToken)
include htoken

/-- Each line of plain code is one token. -/
theorem exists_tokenize_of_isPlain {code : Element} (hplain : IsPlain highlighter.syntaxes code)
    {line : List Char} (hline : line ≠ []) (before : List (List Char)) :
    ∃ style, highlighter.tokenize (codeLanguage? code.head) before line = .ok [⟨style, line⟩] := by
  rw [Highlighter.tokenize, SyntaxSet.select_of_unknown hplain]
  exact htoken highlighter.theme before line hline

theorem showsText_of_renewed {block block' : Element}
    (h : Renewed (highlightCode highlighter) block block') :
    ShowsText highlighter.syntaxes block block' := by
  obtain ⟨code, new, hcode, hnew, -, hcode'⟩ := h
  obtain ⟨-, rows, hrows, rfl⟩ := highlightCode_eq_some_iff.1 hnew
  refine ⟨code, ⟨code.head, rows⟩, hcode, hcode', fun hplain lines hlines htext => ?_⟩
  rw [htext, String.toList_ofList, hlines.linesWithEnds_flatten] at hrows
  have hshows : ShowsLines lines rows := rowsNodes_of_rowsFrom
    (fun line hline => exists_tokenize_of_isPlain htoken hplain (hlines.ne_nil hline)) hrows
  exact ⟨hshows, hshows.childElements_length⟩

end

theorem keepsLanguage_of_renewed {highlighter : Highlighter} {block block' : Element}
    (h : Renewed (highlightCode highlighter) block block') : KeepsLanguage block block' := by
  obtain ⟨code, new, hcode, hnew, hhead, hcode'⟩ := h
  obtain ⟨hpre, rows, -, rfl⟩ := highlightCode_eq_some_iff.1 hnew
  have hpre' : block'.head.tag = "pre" := by rw [hhead]; exact hpre
  have hlanguage : block'.head.attribute? "data-language" =
      some ((codeLanguage? code.head).getD "plaintext") := by
    rw [hhead]
    simp [ElementHead.attribute?_setAttribute]
  rw [KeepsLanguage, codeBlock?, codeBlock?, if_pos hpre, if_pos hpre', hcode, hcode']
  refine ⟨_, _, rfl, rfl, fun hnone => ?_⟩
  rw [hlanguage, hnone]
  rfl

/-- Highlighting shows plain code by its lines, if the grammar of plain text makes one token of a
line; of the other grammars, and of how the set finds them, nothing is asked.  The blocks of the new
tree come, in order, from blocks of the old one, and from all of them if no block is part of the
code of another one.  Where the code of a block is in no language, or in one without a grammar, the
new `code` holds one numbered row for each line of its text, with the line's text up to its end as
the only token, or without a token if there is no text, and behind the row the line ending, if there
is one.  A block on which no language is noted keeps the language that readers see, or gets
`plaintext`.  A tree of plain blocks can be highlighted. -/
theorem showsLines_highlightTree {highlighter : Highlighter}
    (htoken : highlighter.syntaxes.plainText.OneToken) (t : Tree) :
    ((∀ block ∈ blocks t, ∀ code, codeChild? block.children = some code →
        IsPlain highlighter.syntaxes code) →
      ∃ u, highlightTree highlighter t = .ok u) ∧
    ∀ u, highlightTree highlighter t = .ok u → Traces
      (fun block block' =>
        ShowsText highlighter.syntaxes block block' ∧ KeepsLanguage block block')
      (FlatBlocks t) (blocks t) (blocks u) := by
  constructor
  · intro hplain
    refine exists_highlightTree_of_blocks fun block hblock code hcode line hline before => ?_
    obtain ⟨style, hstyle⟩ :=
      exists_tokenize_of_isPlain htoken (hplain block hblock code hcode) hline before
    exact ⟨_, hstyle⟩
  · intro u hu
    refine (traces_highlightTree hu).mono fun block block' hrenewed => ?_
    exact ⟨showsText_of_renewed htoken hrenewed, keepsLanguage_of_renewed hrenewed⟩

/-- A grammar that makes a token of each character. -/
def letters : Grammar := fun theme _ line =>
  .ok (line.map fun c => ⟨{ color := theme.foreground, bold := true }, [c]⟩)

/-- A highlighter that has a grammar for `js`, which is also found by the name `JavaScript`. -/
def scriptHighlighter : Highlighter where
  theme := ⟨"base16-ocean.dark", "#2b303b", "#c0c5ce"⟩
  syntaxes := {
    byToken := fun token => if token = "js" then some letters else none
    byName := fun name => if name = "JavaScript" then some letters else none
    plainText := SyntaxSet.plain.plainText }

/-- A block in no language with three lines, and a block in a language that nobody knows. -/
def plainBlocks : Tree :=
  [.element (.ofTag "pre") [.element (.ofTag "code") [.text "a\r\r\n", .text "\nb"]],
    .component { name := "Tabs" } [.element (.ofTag "pre")
      [.element ((ElementHead.ofTag "code").setAttribute "class" "language-nosuchlang")
        [.text "c\n"]]]]

theorem showsLines_highlightTree_plainBlocks :
    scriptHighlighter.syntaxes.plainText.OneToken ∧ ¬ scriptHighlighter.syntaxes.Unknown "ts" ∧
    ∃ u block block' code view', blocks u = [block, block'] ∧
      highlightTree scriptHighlighter plainBlocks = .ok u ∧ codeChild? block.children = some code ∧
      ShowsLines ["a\r\r\n".toList, "\n".toList, "b".toList] code.children ∧
      (childElements code.children).length = 3 ∧
      codeBlock? block' = some view' ∧ view'.language = some "nosuchlang" := by
  have htoken : scriptHighlighter.syntaxes.plainText.OneToken := SyntaxSet.oneToken_plain
  have hflat : FlatBlocks plainBlocks := by
    simp [plainBlocks, FlatBlocks, isCodeBlock, codeChild?_element]
  have hblocks : blocks plainBlocks = [⟨.ofTag "pre", [.element (.ofTag "code")
      [.text "a\r\r\n", .text "\nb"]]⟩, ⟨.ofTag "pre",
        [.element ((ElementHead.ofTag "code").setAttribute "class" "language-nosuchlang")
          [.text "c\n"]]⟩] := rfl
  have hfirst : IsPlain scriptHighlighter.syntaxes
      ⟨.ofTag "code", [.text "a\r\r\n", .text "\nb"]⟩ := by
    decide
  have hsecond : IsPlain scriptHighlighter.syntaxes
      ⟨(ElementHead.ofTag "code").setAttribute "class" "language-nosuchlang", [.text "c\n"]⟩ := by
    decide
  obtain ⟨hexists, htraces⟩ := showsLines_highlightTree htoken plainBlocks
  obtain ⟨u, hu⟩ : ∃ u, highlightTree scriptHighlighter plainBlocks = .ok u := by
    refine hexists fun block hblock code hcode => ?_
    rw [hblocks, List.mem_pair] at hblock
    rcases hblock with rfl | rfl
    · cases hcode
      exact hfirst
    · cases hcode
      exact hsecond
  obtain ⟨kept, -, hrel, hall⟩ := htraces u hu
  rw [hall hflat, hblocks] at hrel
  generalize hnew : blocks u = new at hrel
  obtain ⟨block, rest, ⟨hshows, -⟩, hrest, rfl⟩ := List.forall₂_cons_left_iff.1 hrel
  obtain ⟨block', last, ⟨-, hlanguage⟩, hlast, rfl⟩ := List.forall₂_cons_left_iff.1 hrest
  rw [List.forall₂_nil_left_iff.1 hlast] at hnew
  obtain ⟨code, code', hcode, hcode', hlines⟩ := hshows
  cases hcode
  have hcut : IsLines ["a\r\r\n".toList, "\n".toList, "b".toList] :=
    isLines_linesWithEnds "a\r\r\n\nb".toList
  obtain ⟨hrows, hcount⟩ := hlines hfirst _ hcut (by decide)
  obtain ⟨view, view', hview, hview', hkept⟩ := hlanguage
  cases hview
  exact ⟨htoken, by decide, u, block, block', code', view', hnew, hu, hcode', hrows, hcount,
    hview', hkept rfl⟩

end Folio
