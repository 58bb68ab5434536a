import Folio.Proofs.Stage.Commute
import Folio.Proofs.Stage.TitleNote

/-!
# Lifting titles

What lifting titles makes of a tree, block by block.  The title of a block is the first one of its
note, or the one behind its language, or it has none; nothing is lifted from other elements.  So a
tree stays as it is exactly if none of its blocks has a title to lift.
-/

namespace Folio

open Folio.Text

/-! ## Block by block -/

/-- What becomes of a code block. -/
def liftBlock (block : Element) : Element :=
  match liftNoteTitle? block.head with
  | some head => ⟨head, liftTitles block.children⟩
  | none =>
    match codeTitle? block.children with
    | some (language, title) =>
      ⟨block.head.setAttribute "data-title" (String.ofList title),
        mapCodeHead (setLanguage language) (liftTitles block.children)⟩
    | none => ⟨block.head, liftTitles block.children⟩

theorem attribute?_liftNote_title (found : FoundTitle) (head : ElementHead) :
    (liftNote found head).attribute? "data-title" = some (String.ofList found.title) := by
  rw [liftNote, ElementHead.attribute?_setAttribute, if_pos rfl]

theorem tag_liftNote (found : FoundTitle) (head : ElementHead) :
    (liftNote found head).tag = head.tag := by
  rw [liftNote]
  split <;> rfl

theorem position_liftNote (found : FoundTitle) (head : ElementHead) :
    (liftNote found head).position = head.position := by
  rw [liftNote]
  split <;> rfl

/-- The note of a head with its title lifted. -/
theorem attribute?_liftNote_note (found : FoundTitle) (head : ElementHead) :
    (liftNote found head).attribute? "data-meta" =
      if found.rest.isEmpty then none else some (String.ofList found.rest) := by
  rw [liftNote, ElementHead.attribute?_setAttribute, if_neg (by decide)]
  split
  · rw [ElementHead.attribute?_eraseAttribute, if_pos rfl]
  · rw [ElementHead.attribute?_setAttribute, if_pos rfl]

/-- What can become of a code block. -/
theorem liftBlock_cases (block : Element) :
    (∃ found, liftBlock block = ⟨liftNote found block.head, liftTitles block.children⟩) ∨
      (∃ language title, liftBlock block =
        ⟨block.head.setAttribute "data-title" (String.ofList title),
          mapCodeHead (setLanguage language) (liftTitles block.children)⟩) ∨
      liftBlock block = ⟨block.head, liftTitles block.children⟩ := by
  unfold liftBlock
  cases hnote : liftNoteTitle? block.head with
  | some head =>
      rw [liftNoteTitle?_eq, Option.map_eq_some_iff] at hnote
      obtain ⟨found, -, rfl⟩ := hnote
      exact Or.inl ⟨found, rfl⟩
  | none =>
      cases codeTitle? block.children with
      | some found => exact Or.inr (Or.inl ⟨found.1, found.2, rfl⟩)
      | none => exact Or.inr (Or.inr rfl)

section

variable {head : ElementHead} {children : List Node}

theorem liftTitles_block (hblock : isCodeBlock head children) (rest : List Node) :
    liftTitles (.element head children :: rest) =
      .element (liftBlock ⟨head, children⟩).head (liftBlock ⟨head, children⟩).children ::
        liftTitles rest := by
  rcases title_cases head children with
    ⟨-, head', hnote⟩ | ⟨-, hnote, language, title, hcode⟩ | huntitled
  · rw [liftTitles_of_note hblock hnote, liftBlock, hnote]
  · rw [liftTitles_of_language hblock hnote hcode, liftBlock, hnote, hcode]
  · obtain ⟨hnote, hcode⟩ := huntitled hblock
    rw [liftTitles_of_untitled huntitled, liftBlock, hnote, hcode]

theorem liftTitles_plain (hplain : ¬isCodeBlock head children) (rest : List Node) :
    liftTitles (.element head children :: rest) =
      .element head (liftTitles children) :: liftTitles rest :=
  liftTitles_of_untitled (fun h => (hplain h).elim) rest

/-- A change of a `code` does not change what is a block, or below one. -/
theorem blocks_mapCodeHead {g : ElementHead → ElementHead} (hg : ∀ head, (g head).tag = head.tag)
    (t : Tree) : blocks (mapCodeHead g t) = blocks t := by
  induction t using tree_induction with
  | nil => rfl
  | element head children rest _ ih =>
      rw [mapCodeHead_element]
      by_cases hcode : head.tag = "code"
      · rw [if_pos hcode, blocks_code hcode, blocks_code ((hg head).trans hcode)]
      · rw [if_neg hcode, blocks_element, blocks_element, ih]
  | component tag children rest _ ih => simp [ih]
  | text value rest ih => exact ih

theorem tag_liftBlock (block : Element) : (liftBlock block).head.tag = block.head.tag := by
  rcases liftBlock_cases block with ⟨found, h⟩ | ⟨language, title, h⟩ | h
  · rw [h, tag_liftNote]
  · rw [h, ElementHead.tag_setAttribute]
  · rw [h]

/-- The children of a block keep their shape, whether a title is lifted from one of them or not. -/
theorem sameShape_children_liftBlock (block : Element) :
    SameShape (liftBlock block).children block.children := by
  have hlifted := sameShape_liftTitles block.children
  rcases liftBlock_cases block with ⟨found, h⟩ | ⟨language, title, h⟩ | h
  · rwa [h]
  · rw [h]
    exact (sameShape_mapCodeHead (tag_setLanguage language) _).trans hlifted
  · rwa [h]

theorem blocks_children_liftBlock (block : Element) :
    blocks (liftBlock block).children = blocks (liftTitles block.children) := by
  rcases liftBlock_cases block with ⟨found, h⟩ | ⟨language, title, h⟩ | h
  · rw [h]
  · rw [h, blocks_mapCodeHead (tag_setLanguage language)]
  · rw [h]

theorem isCodeBlock_liftBlock (block : Element) :
    isCodeBlock (liftBlock block).head (liftBlock block).children =
      isCodeBlock block.head block.children :=
  (sameShape_children_liftBlock block).sameView.isCodeBlock_eq (tag_liftBlock block)

/-- The blocks of a tree are lifted one by one. -/
theorem blocks_liftTitles (t : Tree) : blocks (liftTitles t) = (blocks t).map liftBlock := by
  induction t using tree_induction with
  | nil => rfl
  | component tag children rest ihc ihr => simp [ihc, ihr]
  | text value rest ih => exact ih
  | element head children rest ihc ihr =>
      -- What is lifted keeps blocks as blocks and other elements as other elements.
      by_cases hblock : isCodeBlock head children
      · rw [liftTitles_block hblock, blocks_element, isCodeBlock_liftBlock, if_pos hblock,
          blocks_children_liftBlock, ihc, ihr, blocks_element, if_pos hblock]
        simp
      · have hplain : ¬isCodeBlock head (liftTitles children) := by
          rwa [(sameShape_liftTitles children).sameView.isCodeBlock_eq rfl]
        rw [liftTitles_plain hblock, blocks_element, if_neg hplain, ihc, ihr, blocks_element,
          if_neg hblock]
        simp

end

/-! ## Titles behind languages -/

/-- The class of the block's `code` names a language with a title behind it. -/
def LanguageTitled (children : List Node) (language title : List Char) : Prop :=
  ∃ code class_, codeChild? children = some code ∧ code.head.attribute? "class" = some class_ ∧
    class_.toList = "language-".toList ++ (language ++ ':' :: title) ∧ ':' ∉ language ∧ title ≠ []

theorem classTitle?_eq_some_iff {class_ : String} {language title : List Char} :
    classTitle? class_ = some (language, title) ↔
      class_.toList = "language-".toList ++ (language ++ ':' :: title) ∧ ':' ∉ language ∧
        title ≠ [] := by
  constructor
  · intro h
    simp only [classTitle?, Option.bind_eq_bind, Option.bind_eq_some_iff] at h
    obtain ⟨name, hname, h⟩ := h
    by_cases hcolon : ':' ∈ name
    · obtain ⟨language, title, rfl, hnot⟩ := List.eq_append_cons_of_mem hcolon
      rw [takeWhile_ne hnot, dropWhile_ne hnot] at h
      by_cases hempty : title = []
      · subst hempty
        cases h
      · have hsome : title.isEmpty = false := by simpa using hempty
        simp only [hsome, Bool.false_eq_true, if_false] at h
        cases h
        exact ⟨dropStart?_eq_some_iff.1 hname, hnot, hempty⟩
    · have hplain : name.dropWhile (· != ':') = [] :=
        List.dropWhile_eq_nil_iff.2 fun c hc => bne_iff_ne.2 (ne_of_mem_of_not_mem hc hcolon)
      rw [hplain] at h
      cases h
  · rintro ⟨hclass, hnot, hempty⟩
    have hsome : title.isEmpty = false := by simpa using hempty
    simp only [classTitle?, dropStart?_eq_some_iff.2 hclass, Option.bind_eq_bind, Option.bind_some,
      dropWhile_ne hnot, takeWhile_ne hnot, hsome, Bool.false_eq_true, if_false]
    rfl

theorem codeTitle?_eq_some_iff {children : List Node} {language title : List Char} :
    codeTitle? children = some (language, title) ↔ LanguageTitled children language title := by
  simp only [codeTitle?, Option.bind_eq_bind, Option.bind_eq_some_iff, classTitle?_eq_some_iff,
    LanguageTitled]
  constructor
  · rintro ⟨code, hcode, class_, hclass, h⟩
    exact ⟨code, class_, hcode, hclass, h⟩
  · rintro ⟨code, class_, hcode, hclass, h⟩
    exact ⟨code, hcode, class_, hclass, h⟩

/-- The `code` of a list of nodes after a change of its head. -/
theorem codeChild?_mapCodeHead {g : ElementHead → ElementHead}
    (hg : ∀ head, (g head).tag = head.tag) (t : Tree) : codeChild? (mapCodeHead g t) =
      (codeChild? t).map fun code => ⟨g code.head, code.children⟩ := by
  induction t using tree_induction with
  | nil => rfl
  | element head children rest _ ih =>
      rw [mapCodeHead_element, codeChild?_element]
      by_cases hcode : head.tag = "code"
      · rw [if_pos hcode, if_pos hcode, codeChild?_element, if_pos ((hg head).trans hcode)]
        rfl
      · rw [if_neg hcode, if_neg hcode, codeChild?_element, if_neg hcode, ih]
  | component tag children rest _ ih => exact ih
  | text value rest ih => exact ih

/-- Nothing that is lifted changes the head of a `code`, other than its own title. -/
theorem codeChild?_liftTitles (t : Tree) : codeChild? (liftTitles t) =
    (codeChild? t).map fun code => ⟨code.head, liftTitles code.children⟩ := by
  induction t using tree_induction with
  | nil => rfl
  | element head children rest _ ih =>
      by_cases hblock : isCodeBlock head children
      · -- A block is a `pre`, so it is passed over before and after.
        have hne : head.tag ≠ "code" := by
          rw [tag_of_isCodeBlock hblock]
          decide
        have hne' : (liftBlock ⟨head, children⟩).head.tag ≠ "code" := by rwa [tag_liftBlock]
        rw [liftTitles_block hblock, codeChild?_element, if_neg hne', ih, codeChild?_element,
          if_neg hne]
      · rw [liftTitles_plain hblock, codeChild?_element, codeChild?_element, ih]
        split <;> rfl
  | component tag children rest _ ih => exact ih
  | text value rest ih => exact ih

/-- The class of a `code` whose language is set. -/
theorem attribute?_setLanguage (language : List Char) (head : ElementHead) :
    (setLanguage language head).attribute? "class" =
      some ("language-" ++ String.ofList language) := by
  rw [setLanguage, ElementHead.attribute?_setAttribute, if_pos rfl]

theorem toList_language (language : List Char) :
    ("language-" ++ String.ofList language).toList = "language-".toList ++ language := by
  rw [String.toList_append, @String.toList_ofList language]

/-- Behind a language that is set there is no title if the language has no colon. -/
theorem not_languageTitled_setLanguage {language : List Char} (hcolon : ':' ∉ language)
    (children : List Node) (language' title : List Char) :
    ¬LanguageTitled (mapCodeHead (setLanguage language) children) language' title := by
  rintro ⟨code, class_, hcode, hclass, htext, -, -⟩
  rw [codeChild?_mapCodeHead (tag_setLanguage language), Option.map_eq_some_iff] at hcode
  obtain ⟨code, -, rfl⟩ := hcode
  rw [attribute?_setLanguage] at hclass
  rw [← Option.some.inj hclass, toList_language] at htext
  rw [List.append_cancel_left htext] at hcolon
  exact hcolon (List.mem_append_right language' List.mem_cons_self)

/-! ## Where a title is lifted from -/

/-- The block's note has a title. -/
def NoteTitled (block : Element) : Prop :=
  ∃ note, block.head.attribute? "data-meta" = some note ∧ HasTitle note.toList

/-- The block's note has no title, nor is there one behind its language. -/
def Settled (block : Element) : Prop :=
  ¬NoteTitled block ∧ ∀ language title, ¬LanguageTitled block.children language title

theorem codeTitle?_eq_none_iff {children : List Node} :
    codeTitle? children = none ↔ ∀ language title, ¬LanguageTitled children language title := by
  rw [Option.eq_none_iff_forall_ne_some, Prod.forall]
  exact forall₂_congr fun language title => not_congr codeTitle?_eq_some_iff

section

variable {block : Element}

theorem liftNoteTitle?_eq_none_iff : liftNoteTitle? block.head = none ↔ ¬NoteTitled block := by
  rw [liftNoteTitle?_eq, Option.map_eq_none_iff, Option.bind_eq_none_iff]
  simp only [NoteTitled, not_exists, not_and]
  exact forall₂_congr fun note _ => findTitle?_eq_none_iff

/-- A settled block is one from which nothing is lifted. -/
theorem settled_iff : Settled block ↔
    liftNoteTitle? block.head = none ∧ codeTitle? block.children = none := by
  rw [liftNoteTitle?_eq_none_iff, codeTitle?_eq_none_iff, Settled]

/-- The block with the first title of its note lifted. -/
theorem liftBlock_of_note {note : String} {before title after : List Char}
    (hnote : block.head.attribute? "data-meta" = some note)
    (htitle : FirstTitle note.toList before title after) :
    liftBlock block =
      ⟨liftNote ⟨before.dropLast, title, after⟩ block.head, liftTitles block.children⟩ := by
  have hhead : liftNoteTitle? block.head =
      some (liftNote ⟨before.dropLast, title, after⟩ block.head) := by
    rw [liftNoteTitle?_eq, hnote, Option.bind_some, htitle.findTitle?_eq, Option.map_some]
  rw [liftBlock, hhead]

/-- The block with the title behind its language lifted. -/
theorem liftBlock_of_language {language title : List Char} (hnote : ¬NoteTitled block)
    (hcode : LanguageTitled block.children language title) :
    liftBlock block = ⟨block.head.setAttribute "data-title" (String.ofList title),
      mapCodeHead (setLanguage language) (liftTitles block.children)⟩ := by
  rw [liftBlock, liftNoteTitle?_eq_none_iff.2 hnote, codeTitle?_eq_some_iff.2 hcode]

theorem liftBlock_of_settled (h : Settled block) :
    liftBlock block = ⟨block.head, liftTitles block.children⟩ := by
  obtain ⟨hnote, hcode⟩ := settled_iff.1 h
  rw [liftBlock, hnote, hcode]

end

/-- Where the title of a block is lifted from. -/
theorem note_or_language_or_settled (block : Element) :
    (∃ note before title after, block.head.attribute? "data-meta" = some note ∧
        FirstTitle note.toList before title after) ∨
      (¬NoteTitled block ∧ ∃ language title, LanguageTitled block.children language title) ∨
      Settled block := by
  by_cases hnote : NoteTitled block
  · obtain ⟨note, hmeta, htitle⟩ := hnote
    cases hfound : findTitle? true note.toList with
    | none => exact (findTitle?_eq_none_iff.1 hfound htitle).elim
    | some found =>
        obtain ⟨before, -, hfirst⟩ := exists_firstTitle hfound
        exact Or.inl ⟨note, before, _, _, hmeta, hfirst⟩
  · by_cases hcode : ∃ language title, LanguageTitled block.children language title
    · exact Or.inr (Or.inl ⟨hnote, hcode⟩)
    · exact Or.inr (Or.inr ⟨hnote, fun language title h => hcode ⟨language, title, h⟩⟩)

/-! ## Trees without titles to lift -/

/-- A note whose title was lifted is shorter. -/
theorem length_rest_lt {note : List Char} {found : FoundTitle}
    (h : findTitle? true note = some found) :
    found.rest.length < note.length := by
  obtain ⟨before, hbefore, ⟨-, cs, rfl, quote, -, -, rfl⟩, -⟩ := exists_firstTitle h
  have hcut : found.rest.length ≤ (found.before ++ ' ' :: found.after).length := length_trim_le _
  have hfront : found.before.length ≤ before.length := by
    rw [hbefore, List.length_dropLast]
    exact Nat.sub_le _ _
  have hopener : "title=".toList.length = 6 := by decide
  simp only [List.length_append, List.length_cons, hopener] at hcut ⊢
  omega

/-- A head whose note has its title lifted is another one. -/
theorem liftNote_ne {head : ElementHead} {note : String} {found : FoundTitle}
    (hnote : head.attribute? "data-meta" = some note)
    (hfound : findTitle? true note.toList = some found) : liftNote found head ≠ head := by
  have hlt := length_rest_lt hfound
  intro heq
  have hsame := attribute?_liftNote_note found head
  rw [heq, hnote] at hsame
  split at hsame
  · cases hsame
  · rw [Option.some.inj hsame, String.toList_ofList] at hlt
    exact Nat.lt_irrefl _ hlt

/-- A block stays as it is exactly if it is settled and all below it is. -/
theorem liftBlock_same_iff (block : Element) :
    ((liftBlock block).head = block.head ∧ (liftBlock block).children = block.children) ↔
      Settled block ∧ liftTitles block.children = block.children := by
  rcases note_or_language_or_settled block with
    ⟨note, before, title, after, hnote, htitle⟩ | ⟨hnote, language, title, hcode⟩ | hsettled
  · rw [liftBlock_of_note hnote htitle]
    refine iff_of_false (fun h => liftNote_ne hnote htitle.findTitle?_eq h.1) fun h => ?_
    exact h.1.1 ⟨note, hnote, before, title, after, htitle.1⟩
  · rw [liftBlock_of_language hnote hcode]
    -- The class names no title any more, so it is not the class that named one.
    refine iff_of_false (fun h => ?_) fun h => h.1.2 language title hcode
    obtain ⟨-, -, -, -, -, hcolon, -⟩ := id hcode
    rw [← h.2] at hcode
    exact not_languageTitled_setLanguage hcolon _ language title hcode
  · rw [liftBlock_of_settled hsettled]
    simp [hsettled]

/-- Lifting titles changes a tree exactly if it has some to lift. -/
theorem liftTitles_eq_self_iff (t : Tree) :
    liftTitles t = t ↔ ∀ block ∈ blocks t, Settled block := by
  induction t using tree_induction with
  | nil => simp
  | component tag children rest ihc ihr =>
      rw [blocks_component, List.forall_mem_append, ← ihc, ← ihr]
      simp
  | text value rest ih => simpa using ih
  | element head children rest ihc ihr =>
      rw [blocks_element, List.forall_mem_append, List.forall_mem_append, ← ihc, ← ihr]
      -- Only a block is changed for itself; any element may be changed by what is below it.
      by_cases hblock : isCodeBlock head children
      · rw [liftTitles_block hblock, if_pos hblock, List.cons.injEq, Node.element.injEq,
          List.forall_mem_singleton, ← and_assoc (a := Settled _)]
        exact and_congr_left' (liftBlock_same_iff ⟨head, children⟩)
      · rw [liftTitles_plain hblock, if_neg hblock]
        simp

end Folio
