import Folio.Proofs.Stage.Title

/-!
# Titles that are left

Of a note only the first title is lifted, and one behind the language only if the note has none.  A
block with more titles than one keeps the others, which a second run lifts in turn.  The language of
a block loses its title only if this one is lifted.
-/

namespace Folio

open Folio.Text

/-! ## Blocks with one title -/

/-- If the block's note has a title, there is no other one behind it, nor one behind the block's
language. -/
def OneTitle (block : Element) : Prop :=
  ∀ note before title after, block.head.attribute? "data-meta" = some note →
    FirstTitle note.toList before title after →
    ¬HasTitle after ∧ ∀ language title, ¬LanguageTitled block.children language title

section

variable {block : Element}

/-- A block whose note has no title has one title at most. -/
theorem oneTitle_of_not_noteTitled (hnote : ¬NoteTitled block) : OneTitle block :=
  fun note before title after hmeta htitle =>
    (hnote ⟨note, hmeta, before, title, after, htitle.1⟩).elim

/-- A block with a title in its note has one title exactly if there is none behind this one. -/
theorem oneTitle_iff_of_note {note : String} {before title after : List Char}
    (hnote : block.head.attribute? "data-meta" = some note)
    (htitle : FirstTitle note.toList before title after) :
    OneTitle block ↔
      ¬HasTitle after ∧ ∀ language title, ¬LanguageTitled block.children language title := by
  constructor
  · intro h
    exact h note before title after hnote htitle
  · intro h note' before' title' after' hnote' htitle'
    obtain rfl : note = note' := Option.some.inj (hnote.symm.trans hnote')
    obtain ⟨-, -, rfl⟩ := htitle.unique htitle'
    exact h

end

/-! ## What is left to lift -/

theorem not_hasTitle_nil : ¬HasTitle [] := by
  rintro ⟨before, title, after, htitle⟩
  exact not_titledAt_nil htitle

/-- The title that is left in a note is that of its rest. -/
theorem noteTitled_liftNote {found : FoundTitle} {head : ElementHead} {children : List Node} :
    NoteTitled ⟨liftNote found head, children⟩ ↔ HasTitle found.rest := by
  rw [NoteTitled, attribute?_liftNote_note]
  by_cases hempty : found.rest = []
  · simp [hempty, not_hasTitle_nil]
  · have hsome : found.rest.isEmpty = false := by simpa using hempty
    rw [hsome, if_neg Bool.false_ne_true]
    simp

/-- Lifting the titles below a block leaves the one behind its language. -/
theorem languageTitled_liftTitles {children : List Node} {language title : List Char} :
    LanguageTitled (liftTitles children) language title ↔
      LanguageTitled children language title := by
  rw [← codeTitle?_eq_some_iff, ← codeTitle?_eq_some_iff, codeTitle?, codeTitle?,
    codeChild?_liftTitles]
  cases codeChild? children <;> rfl

section

variable {block : Element}

/-- A block has nothing left to lift exactly if it had one title at most, apart from one behind its
language that the title of its note comes before. -/
theorem settled_liftBlock_iff : Settled (liftBlock block) ↔ OneTitle block := by
  rcases note_or_language_or_settled block with
    ⟨note, before, title, after, hnote, htitle⟩ | ⟨hnote, language, title, hcode⟩ | hsettled
  · -- The note keeps what is behind its first title, and the class is not looked at.
    have hrest : HasTitle (FoundTitle.mk before.dropLast title after).rest ↔ HasTitle after :=
      htitle.hasTitle_rest
    rw [liftBlock_of_note hnote htitle, Settled, noteTitled_liftNote, hrest,
      oneTitle_iff_of_note hnote htitle]
    simp only [languageTitled_liftTitles]
  · -- The note had no title, and the class has lost its colon.
    rw [liftBlock_of_language hnote hcode]
    refine iff_of_true ?_ (oneTitle_of_not_noteTitled hnote)
    obtain ⟨-, -, -, -, -, hcolon, -⟩ := hcode
    refine ⟨?_, not_languageTitled_setLanguage hcolon _⟩
    rintro ⟨note, hmeta, htitle⟩
    rw [ElementHead.attribute?_setAttribute, if_neg (by decide)] at hmeta
    exact hnote ⟨note, hmeta, htitle⟩
  · rw [liftBlock_of_settled hsettled]
    refine iff_of_true ?_ (oneTitle_of_not_noteTitled hsettled.1)
    refine ⟨hsettled.1, fun language title hcode => ?_⟩
    exact hsettled.2 language title (languageTitled_liftTitles.1 hcode)

instance : DecidablePred Settled := fun _ => decidable_of_iff _ settled_iff.symm

instance : DecidablePred OneTitle := fun _ => decidable_of_iff _ settled_liftBlock_iff

/-- A block that has no title after lifting has nothing left to lift. -/
theorem settled_of_title_isNone
    (h : ¬((liftBlock block).head.attribute? "data-title").isSome) : Settled (liftBlock block) := by
  rcases note_or_language_or_settled block with
    ⟨note, before, title, after, hnote, htitle⟩ | ⟨hnote, language, title, hcode⟩ | hsettled
  · rw [liftBlock_of_note hnote htitle, attribute?_liftNote_title] at h
    exact (h rfl).elim
  · rw [liftBlock_of_language hnote hcode, ElementHead.attribute?_setAttribute, if_pos rfl] at h
    exact (h rfl).elim
  · exact settled_liftBlock_iff.2 (oneTitle_of_not_noteTitled hsettled.1)

end

/-! ## The language of a block -/

/-- Up to its first blank a language is itself exactly if it has none. -/
theorem takeWhile_eq_self {language : List Char} :
    (language.takeWhile fun c => !isBlank c) = language ↔ ∀ c ∈ language, isBlank c = false := by
  rw [List.takeWhile_eq_self_iff]
  simp only [Bool.not_eq_true']

/-- A class that starts with a language names this language, up to its first blank. -/
theorem classLanguage?_of_language {class_ : String} {name : List Char}
    (h : class_.toList = "language-".toList ++ name) :
    classLanguage? class_ = some (String.ofList (name.takeWhile fun c => !isBlank c)) := by
  have hplain : ∀ c ∈ "language-".toList, isBlank c = false := takeWhile_eq_self.1 (by decide)
  have hfirst : words class_.toList = ("language-".toList ++ name.takeWhile fun c => !isBlank c) ::
      words (name.dropWhile fun c => !isBlank c) := by
    rw [h]
    conv_lhs => rw [← List.takeWhile_append_dropWhile (p := fun c => !isBlank c) (l := name)]
    rw [← List.append_assoc]
    refine words_cons (by simp) (fun c hc => ?_) fun c hc => ?_
    · rcases List.mem_append.1 hc with hc | hc
      · exact hplain c hc
      · simpa using List.mem_takeWhile_imp hc
    · have hstop := List.head?_dropWhile_not (fun c => !isBlank c) name
      rw [Option.mem_def.1 hc] at hstop
      simpa using hstop
  rw [classLanguage?, hfirst, List.findSome?_cons, dropStart?_eq_some_iff.2 rfl]
  rfl

/-- A language with its title is never the language alone. -/
theorem takeWhile_ne_language (language title : List Char) :
    ((language ++ ':' :: title).takeWhile fun c => !isBlank c) ≠ language := by
  intro h
  have hplain : ∀ c ∈ language, (!isBlank c) = true := by
    intro c hc
    rw [← h] at hc
    exact List.mem_takeWhile_imp (p := fun c => !isBlank c) hc
  have hlen := congrArg List.length h
  rw [List.takeWhile_append_of_pos hplain, List.takeWhile_cons_of_pos (by decide),
    List.length_append, List.length_cons] at hlen
  omega

/-- The language a lifted block is coloured in is what stands before the colon exactly if no title
of the note was in the way, and the language is one word. -/
theorem codeLanguage?_liftBlock {block : Element} {language title : List Char}
    (h : LanguageTitled block.children language title) :
    ∃ code, codeChild? (liftBlock block).children = some code ∧
      (codeLanguage? code.head = some (String.ofList language) ↔
        ¬NoteTitled block ∧ ∀ c ∈ language, isBlank c = false) := by
  obtain ⟨code, class_, hcode, hclass, htext, hcolon, htitle⟩ := id h
  have hlifted := codeChild?_liftTitles block.children
  rw [hcode, Option.map_some] at hlifted
  rcases note_or_language_or_settled block with
    ⟨note, before, other, after, hnote, hfirst⟩ | ⟨hnote, -⟩ | hsettled
  · -- The class is as it was, so the title follows the language, or what is left of it.
    rw [liftBlock_of_note hnote hfirst]
    refine ⟨_, hlifted, iff_of_false (fun hsame => ?_) fun hnone => ?_⟩
    · rw [codeLanguage?, hclass, Option.bind_some, classLanguage?_of_language htext] at hsame
      exact takeWhile_ne_language language title (String.ofList_injective (Option.some.inj hsame))
    · exact hnone.1 ⟨note, hnote, before, other, after, hfirst.1⟩
  · -- The class has the language alone, and is read up to its first blank.
    rw [liftBlock_of_language hnote h]
    refine ⟨⟨setLanguage language code.head, liftTitles code.children⟩, ?_, ?_⟩
    · rw [codeChild?_mapCodeHead (tag_setLanguage language), hlifted, Option.map_some]
    · rw [codeLanguage?, attribute?_setLanguage, Option.bind_some,
        classLanguage?_of_language (toList_language language), Option.some_inj, String.ofList_inj,
        takeWhile_eq_self, and_iff_right hnote]
  · exact (hsettled.2 language title h).elim

/-! ## A second run -/

/-- After the stage the blocks with a title have nothing left to lift, and a second run changes
nothing, exactly if each block had one title at most.  A language with a title behind it is what the
code is coloured in afterwards exactly if the note had no title, and the language no blank. -/
theorem codeTitle_apply_settled_iff (tree : Tree) :
    ∃ lifted, Stage.codeTitle.apply tree = .ok lifted ∧
      ((∀ block ∈ blocks lifted, (block.head.attribute? "data-title").isSome → Settled block) ↔
        ∀ block ∈ blocks tree, OneTitle block) ∧
      (Stage.codeTitle.apply lifted = .ok lifted ↔ ∀ block ∈ blocks tree, OneTitle block) ∧
      List.Forall₂ (fun block block' => ∀ language title,
        LanguageTitled block.children language title →
        ∃ code, codeChild? block'.children = some code ∧
          (codeLanguage? code.head = some (String.ofList language) ↔
            ¬NoteTitled block ∧ ∀ c ∈ language, isBlank c = false))
        (blocks tree) (blocks lifted) := by
  refine ⟨liftTitles tree, rfl, ?_, ?_, ?_⟩
  · rw [blocks_liftTitles, List.forall_mem_map]
    refine forall₂_congr fun block _ => ?_
    rw [← settled_liftBlock_iff]
    exact ⟨fun h => (em _).elim h settled_of_title_isNone, fun h _ => h⟩
  · have hagain : Stage.codeTitle.apply (liftTitles tree) = .ok (liftTitles tree) ↔
        liftTitles (liftTitles tree) = liftTitles tree := by
      rw [Stage.apply, Except.ok.injEq]
    rw [hagain, liftTitles_eq_self_iff, blocks_liftTitles, List.forall_mem_map]
    exact forall₂_congr fun block _ => settled_liftBlock_iff
  · rw [blocks_liftTitles, List.forall₂_map_right_iff]
    exact List.forall₂_same.2 fun _ _ _ _ => codeLanguage?_liftBlock

/-- A listing with a title behind its language, and one with a title in its note. -/
def twoListings : Tree :=
  [.element { tag := "pre", attributes := Dict.ofList [("data-meta", "lines")] }
      [.element { tag := "code", attributes := Dict.ofList [("class", "language-js:src/a.js")] }
        [.text "x"]],
    .element { tag := "pre", attributes := Dict.ofList [("data-meta", "lines title='b: c'")] }
      [.element { tag := "code", attributes := Dict.ofList [("class", "language-ts")] }
        [.text "y"]]]

theorem codeTitle_apply_settled_twoListings :
    ∃ lifted first second, Stage.codeTitle.apply twoListings = .ok lifted ∧
      blocks lifted = [first, second] ∧
      (∀ block ∈ blocks lifted, (block.head.attribute? "data-title").isSome → Settled block) ∧
      Stage.codeTitle.apply lifted = .ok lifted ∧
      first.head.attribute? "data-title" = some "src/a.js" ∧
      second.head.attribute? "data-title" = some "b: c" ∧
      ∃ code, codeChild? first.children = some code ∧ codeLanguage? code.head = some "js" := by
  obtain ⟨lifted, hlifted, hsettled, hagain, hblocks⟩ := codeTitle_apply_settled_iff twoListings
  cases hlifted
  have hone : ∀ block ∈ blocks twoListings, OneTitle block := by decide +kernel
  have hcode : codeTitle? [.element
      { tag := "code", attributes := Dict.ofList [("class", "language-js:src/a.js")] }
      [.text "x"]] =
      some ("js".toList, "src/a.js".toList) := by decide +kernel
  cases hblocks with
  | cons hfirst _ =>
      obtain ⟨code, hchild, hlanguage⟩ := hfirst _ _ (codeTitle?_eq_some_iff.1 hcode)
      refine ⟨_, _, _, rfl, rfl, hsettled.2 hone, hagain.2 hone, by decide +kernel,
        by decide +kernel, code, hchild, hlanguage.2 ⟨?_, takeWhile_eq_self.1 (by decide)⟩⟩
      rw [← liftNoteTitle?_eq_none_iff]
      decide +kernel

/-- A listing with a title in its note, and another one behind its language. -/
def twiceTitled : Tree :=
  [.element { tag := "pre", attributes := Dict.ofList [("data-meta", "title=\"a\"")] }
    [.element { tag := "code", attributes := Dict.ofList [("class", "language-js:b.js")] }
      [.text "x"]]]

/-- The title of the note is lifted and the one behind the language stays, so the code is not
coloured in its language, and a second run replaces the title. -/
theorem not_settled_twiceTitled :
    ∃ lifted again, Stage.codeTitle.apply twiceTitled = .ok lifted ∧
      Stage.codeTitle.apply lifted = .ok again ∧
      ¬(∀ block ∈ blocks lifted, (block.head.attribute? "data-title").isSome → Settled block) ∧
      (blocks lifted).map (·.head.attribute? "data-title") = [some "a"] ∧
      (blocks again).map (·.head.attribute? "data-title") = [some "b.js"] ∧
      (blocks lifted).map (fun block =>
        (codeChild? block.children).bind (codeLanguage? ·.head)) = [some "js:b.js"] :=
  ⟨liftTitles twiceTitled, liftTitles (liftTitles twiceTitled), rfl, rfl, by decide +kernel,
    by decide +kernel, by decide +kernel, by decide +kernel⟩

end Folio
