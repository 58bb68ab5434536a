import Folio.Proofs.Stage.Title

/-!
# Labels of code blocks

What lifting titles leaves alone: of the whole tree all but the labels of its code blocks, and of a
block whose note has a title all but this title and the note, which keeps its other words.
-/

namespace Folio

open Folio.Text

/-! ## Labels -/

/-- The head of a code block without its note and its title. -/
def ElementHead.withoutLabels (head : ElementHead) : ElementHead :=
  (head.eraseAttribute "data-meta").eraseAttribute "data-title"

mutual

/-- A node without the notes and titles of its code blocks, and without the class of their
`code`. -/
def Node.withoutLabels : Node → Node
  | .text value => .text value
  | .component tag children => .component tag (withoutLabels children)
  | .element head children =>
    if isCodeBlock head children then
      .element head.withoutLabels (mapCodeHead (·.eraseAttribute "class") (withoutLabels children))
    else
      .element head (withoutLabels children)

/-- A tree without the notes and titles of its code blocks, and without the class of their
`code`. -/
def withoutLabels : List Node → List Node
  | [] => []
  | node :: nodes => node.withoutLabels :: withoutLabels nodes

end

section

variable {head : ElementHead} {children : List Node}

@[simp] theorem withoutLabels_nil : withoutLabels [] = [] := rfl

@[simp] theorem withoutLabels_component (tag : ComponentHead) (children rest : List Node) :
    withoutLabels (.component tag children :: rest) =
      .component tag (withoutLabels children) :: withoutLabels rest := rfl

@[simp] theorem withoutLabels_text (value : String) (rest : List Node) :
    withoutLabels (.text value :: rest) = .text value :: withoutLabels rest := rfl

theorem withoutLabels_block (hblock : isCodeBlock head children) (rest : List Node) :
    withoutLabels (.element head children :: rest) =
      .element head.withoutLabels
          (mapCodeHead (·.eraseAttribute "class") (withoutLabels children)) ::
        withoutLabels rest := by
  show (Node.element head children).withoutLabels :: withoutLabels rest = _
  rw [Node.withoutLabels, if_pos hblock]

theorem withoutLabels_plain (hplain : ¬isCodeBlock head children) (rest : List Node) :
    withoutLabels (.element head children :: rest) =
      .element head (withoutLabels children) :: withoutLabels rest := by
  show (Node.element head children).withoutLabels :: withoutLabels rest = _
  rw [Node.withoutLabels, if_neg hplain]

/-- The head of a `code` is not that of a block, so its change stays. -/
theorem withoutLabels_mapCodeHead {g : ElementHead → ElementHead}
    (hg : ∀ head, (g head).tag = head.tag) (t : Tree) :
    withoutLabels (mapCodeHead g t) = mapCodeHead g (withoutLabels t) := by
  have hplain {head : ElementHead} (hcode : head.tag = "code") (children : List Node) :
      ¬isCodeBlock head children := by
    rw [isCodeBlock_eq_false (by rw [hcode]; decide)]
    decide
  induction t using tree_induction with
  | nil => rfl
  | element head children rest _ ih =>
      rw [mapCodeHead_element]
      by_cases hcode : head.tag = "code"
      · rw [if_pos hcode, withoutLabels_plain (hplain ((hg head).trans hcode) children),
          withoutLabels_plain (hplain hcode children), mapCodeHead_element, if_pos hcode]
      · rw [if_neg hcode]
        by_cases hblock : isCodeBlock head children
        · have htag : head.withoutLabels.tag ≠ "code" := hcode
          rw [withoutLabels_block hblock, withoutLabels_block hblock, mapCodeHead_element,
            if_neg htag, ih]
        · rw [withoutLabels_plain hblock, withoutLabels_plain hblock, mapCodeHead_element,
            if_neg hcode, ih]
  | component tag children rest _ ih => simp [ih]
  | text value rest ih => simp [ih]

theorem mapCodeHead_mapCodeHead (f : ElementHead → ElementHead) {g : ElementHead → ElementHead}
    (hg : ∀ head, (g head).tag = head.tag) (t : Tree) :
    mapCodeHead f (mapCodeHead g t) = mapCodeHead (fun head => f (g head)) t := by
  induction t using tree_induction with
  | nil => rfl
  | element head children rest _ ih =>
      rw [mapCodeHead_element, mapCodeHead_element]
      by_cases hcode : head.tag = "code"
      · rw [if_pos hcode, if_pos hcode, mapCodeHead_element, if_pos ((hg head).trans hcode)]
      · rw [if_neg hcode, if_neg hcode, mapCodeHead_element, if_neg hcode, ih]
  | component tag children rest _ ih => simp [ih]
  | text value rest ih => simp [ih]

theorem ElementHead.eraseAttribute_setAttribute_self (head : ElementHead) (name value : String) :
    (head.setAttribute name value).eraseAttribute name = head.eraseAttribute name := by
  simp only [setAttribute, eraseAttribute, head.attributes.erase_insert_self]

theorem ElementHead.withoutLabels_setAttribute_title (head : ElementHead) (title : String) :
    (head.setAttribute "data-title" title).withoutLabels = head.withoutLabels := by
  rw [withoutLabels, head.eraseAttribute_setAttribute (by decide), eraseAttribute_setAttribute_self,
    withoutLabels]

theorem withoutLabels_liftNote (found : FoundTitle) (head : ElementHead) :
    (liftNote found head).withoutLabels = head.withoutLabels := by
  rw [liftNote, ElementHead.withoutLabels_setAttribute_title, ElementHead.withoutLabels]
  split
  · simp only [ElementHead.eraseAttribute, head.attributes.erase_erase_self,
      ElementHead.withoutLabels]
  · rw [ElementHead.eraseAttribute_setAttribute_self, ElementHead.withoutLabels]

theorem withoutLabels_setLanguage (language : List Char) (head : ElementHead) :
    (setLanguage language head).eraseAttribute "class" = head.eraseAttribute "class" :=
  head.eraseAttribute_setAttribute_self "class" _

/-- Lifting the title of a block changes nothing of it but labels, once nothing else is changed
below it. -/
theorem withoutLabels_liftBlock (block : Element)
    (hchildren : withoutLabels (liftTitles block.children) = withoutLabels block.children) :
    (liftBlock block).head.withoutLabels = block.head.withoutLabels ∧
      mapCodeHead (·.eraseAttribute "class") (withoutLabels (liftBlock block).children) =
        mapCodeHead (·.eraseAttribute "class") (withoutLabels block.children) := by
  rcases liftBlock_cases block with ⟨found, h⟩ | ⟨language, title, h⟩ | h
  · rw [h, hchildren]
    exact ⟨withoutLabels_liftNote found block.head, rfl⟩
  · -- The class is set and left out again, on one `code` and the same.
    rw [h, withoutLabels_mapCodeHead (tag_setLanguage language), hchildren,
      mapCodeHead_mapCodeHead _ (tag_setLanguage language)]
    simp only [withoutLabels_setLanguage]
    exact ⟨block.head.withoutLabels_setAttribute_title _, trivial⟩
  · rw [h, hchildren]
    exact ⟨rfl, rfl⟩

/-- Lifting titles changes nothing but the labels of code blocks. -/
theorem withoutLabels_liftTitles (t : Tree) : withoutLabels (liftTitles t) = withoutLabels t := by
  induction t using tree_induction with
  | nil => rfl
  | component tag children rest ihc ihr => simp [ihc, ihr]
  | text value rest ih => simp [ih]
  | element head children rest ihc ihr =>
      by_cases hblock : isCodeBlock head children
      · have hlifted := (isCodeBlock_liftBlock ⟨head, children⟩).trans hblock
        obtain ⟨hhead, hcode⟩ := withoutLabels_liftBlock ⟨head, children⟩ ihc
        rw [liftTitles_block hblock, withoutLabels_block hlifted, withoutLabels_block hblock, hhead,
          hcode, ihr]
      · have hplain : ¬isCodeBlock head (liftTitles children) := by
          rwa [(sameShape_liftTitles children).sameView.isCodeBlock_eq rfl]
        rw [liftTitles_plain hblock, withoutLabels_plain hplain, withoutLabels_plain hblock, ihc,
          ihr]

end

/-! ## The title of a note -/

/-- The first title of the block's note, between `before` and `after`, is lifted: the note has its
other words, and the block keeps all else.  Below it only titles are lifted. -/
structure NoteLifted (block lifted : Element) (before title after : List Char) : Prop where
  title_eq : lifted.head.attribute? "data-title" = some (String.ofList title)
  words_eq : words ((lifted.head.attribute? "data-meta").getD "").toList =
    words before ++ words after
  tag_eq : lifted.head.tag = block.head.tag
  position_eq : lifted.head.position = block.head.position
  keeps : Keeps ["data-title", "data-meta"] block lifted.head
  children_eq : lifted.children = liftTitles block.children
  same_children_iff : lifted.children = block.children ↔
    ∀ inner ∈ blocks block.children, Settled inner

theorem keeps_liftNote (found : FoundTitle) (block : Element) :
    Keeps ["data-title", "data-meta"] block (liftNote found block.head) := by
  have hsame := Keeps.same ["data-title", "data-meta"] block
  rw [liftNote]
  split
  · exact (hsame.eraseAttribute (by decide)).setAttribute (by decide) _
  · exact (hsame.setAttribute (by decide) _).setAttribute (by decide) _

/-- A note without its title has the words before and after it. -/
theorem words_rest (found : FoundTitle) :
    words found.rest = words found.before ++ words found.after := by
  rw [FoundTitle.rest, words_trim, words_append_blank rfl]

theorem words_liftNote (found : FoundTitle) (head : ElementHead) :
    words (((liftNote found head).attribute? "data-meta").getD "").toList =
      words found.before ++ words found.after := by
  rw [← words_rest, attribute?_liftNote_note]
  by_cases hempty : found.rest = []
  · simp [hempty]
  · have hsome : found.rest.isEmpty = false := by simpa using hempty
    rw [hsome, if_neg Bool.false_ne_true, Option.getD_some, String.toList_ofList]

/-- The blank in front of a title is part of no word. -/
theorem words_dropLast {before : List Char} (h : AtWord before) :
    words before.dropLast = words before := by
  rcases List.eq_nil_or_concat before with rfl | ⟨front, c, rfl⟩
  · rfl
  · have hc : isBlank c := h c (by simp)
    rw [List.concat_eq_append, List.dropLast_concat, words_append_blank hc]
    exact (List.append_nil _).symm

theorem noteLifted_liftBlock {block : Element} {note : String} {before title after : List Char}
    (hnote : block.head.attribute? "data-meta" = some note)
    (htitle : FirstTitle note.toList before title after) :
    NoteLifted block (liftBlock block) before title after := by
  let found : FoundTitle := ⟨before.dropLast, title, after⟩
  have hblock : liftBlock block = ⟨liftNote found block.head, liftTitles block.children⟩ :=
    liftBlock_of_note hnote htitle
  rw [hblock]
  exact {
    title_eq := attribute?_liftNote_title found block.head
    words_eq := by rw [words_liftNote, words_dropLast htitle.1.1]
    tag_eq := tag_liftNote found block.head
    position_eq := position_liftNote found block.head
    keeps := keeps_liftNote found block
    children_eq := rfl
    same_children_iff := liftTitles_eq_self_iff block.children }

/-- The stage lifts the first title of each note and changes nothing else: nothing but the labels of
code blocks in the whole tree, and of a block whose note has a title nothing but the title and the
note.  The children of such a block are changed as if they stood alone. -/
theorem codeTitle_apply_noteLifted (tree : Tree) :
    ∃ lifted, Stage.codeTitle.apply tree = .ok lifted ∧
      withoutLabels lifted = withoutLabels tree ∧
      List.Forall₂ (fun block block' => ∀ note before title after,
        block.head.attribute? "data-meta" = some note →
        FirstTitle note.toList before title after →
        NoteLifted block block' before title after) (blocks tree) (blocks lifted) := by
  refine ⟨liftTitles tree, rfl, withoutLabels_liftTitles tree, ?_⟩
  rw [blocks_liftTitles, List.forall₂_map_right_iff]
  exact List.forall₂_same.2 fun _ _ _ _ _ _ => noteLifted_liftBlock

/-- A listing whose title is in quotes, holds quotes of the other kind and has notes on both
sides. -/
def quotedListing : Tree :=
  [.element { tag := "p" } [.text "Run"],
    .element
      { tag := "pre"
        attributes := Dict.ofList [("data-meta", "{1} title='a \"b\"' lines")]
        data := { rawText := some "x" } }
      [.element { tag := "code", attributes := Dict.ofList [("class", "language-js:c")] }
        [.text "x"]]]

theorem codeTitle_apply_noteLifted_quotedListing :
    ∃ lifted block, Stage.codeTitle.apply quotedListing = .ok lifted ∧
      withoutLabels lifted = withoutLabels quotedListing ∧ blocks lifted = [block] ∧
      block.head.attribute? "data-title" = some "a \"b\"" ∧
      words ((block.head.attribute? "data-meta").getD "").toList =
        ["{1}".toList, "lines".toList] ∧
      block.head.data.rawText = some "x" ∧
      (codeChild? block.children).bind (·.head.attribute? "class") = some "language-js:c" := by
  obtain ⟨lifted, hlifted, hlabels, hblocks⟩ := codeTitle_apply_noteLifted quotedListing
  have hfound : findTitle? true "{1} title='a \"b\"' lines".toList =
      some ⟨"{1}".toList, "a \"b\"".toList, " lines".toList⟩ := by decide +kernel
  obtain ⟨before, hbefore, hfirst⟩ := exists_firstTitle hfound
  cases hcase : blocks lifted with
  | nil =>
      rw [hcase] at hblocks
      cases hblocks
  | cons block rest =>
      rw [hcase] at hblocks
      cases hblocks with
      | cons hblock hrest =>
          cases hrest
          have h := hblock _ before _ _ rfl hfirst
          refine ⟨lifted, block, hlifted, hlabels, hcase, h.title_eq, ?_, ?_, ?_⟩
          · rw [h.words_eq, ← words_dropLast hfirst.1.1, ← hbefore]
            decide +kernel
          · rw [h.keeps.1]
          · rw [h.children_eq]
            decide +kernel

/-- A listing with a title that holds another one. -/
def nestedListing : Tree :=
  [.element { tag := "pre", attributes := Dict.ofList [("data-meta", "title=\"a\"")] }
    [.element { tag := "code" } [.text "x"],
      .element { tag := "pre" }
        [.element { tag := "code", attributes := Dict.ofList [("class", "language-js:b.js")] }
          [.text "y"]]]]

/-- The children of a titled listing do change when one of them is a listing with a title. -/
theorem not_same_children_nestedListing :
    ∃ lifted, Stage.codeTitle.apply nestedListing = .ok lifted ∧
      ¬List.Forall₂ (fun block block' => ∀ note before title after,
        block.head.attribute? "data-meta" = some note →
        FirstTitle note.toList before title after →
        block'.children = block.children) (blocks nestedListing) (blocks lifted) := by
  refine ⟨liftTitles nestedListing, rfl, fun hall => ?_⟩
  rw [blocks_liftTitles, List.forall₂_map_right_iff, List.forall₂_same] at hall
  have hfound : findTitle? true "title=\"a\"".toList =
      some ⟨[], "a".toList, []⟩ := by decide +kernel
  obtain ⟨before, -, hfirst⟩ := exists_firstTitle hfound
  have hsame := hall _ List.mem_cons_self _ before _ _ rfl hfirst
  have htitles := congrArg
    (fun children => (blocks children).map (·.head.attribute? "data-title")) hsame
  revert htitles
  decide +kernel

end Folio
