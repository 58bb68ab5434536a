import Folio.Proofs.Text.Lowercase
import Folio.Slug
import Mathlib.Data.List.SplitBy

/-!
# Slugs in three steps

A slug is made in one pass, with a flag for the run of white space that is being read.  Its
description has three passes: lower case, one hyphen for each longest run of white space, and
nothing but the characters of slugs.  Both give the same, whatever the version of the case tables,
and a slug is its own slug.
-/

namespace Folio

open Folio.Text

variable {c : Char} {cs front rest run word : List Char}

/-! ## Runs of white space -/

/-- The longest stretches of a text that are all white space or free of it, in order. -/
def stretches (cs : List Char) : List (List Char) :=
  cs.splitBy fun c d => isBlank c == isBlank d

/-- The text with one hyphen in the place of each longest run of white space. -/
def hyphenated (cs : List Char) : List Char :=
  (stretches cs).flatMap fun stretch => if stretch.all isBlank then ['-'] else stretch

/-- A text of one kind is one stretch. -/
theorem stretches_of_forall {blank : Bool} (hne : run ≠ []) (h : ∀ c ∈ run, isBlank c = blank) :
    stretches run = [run] := by
  have hsame : run.Pairwise fun c d => isBlank c == isBlank d :=
    List.pairwise_of_forall_mem_list fun c hc d hd => by rw [h c hc, h d hd, beq_self_eq_true]
  exact List.splitBy_of_isChain hne hsame.isChain

theorem hyphenated_of_blanks (hne : run ≠ []) (h : ∀ c ∈ run, isBlank c) :
    hyphenated run = ['-'] := by
  rw [hyphenated, stretches_of_forall hne h, List.flatMap_singleton, if_pos (List.all_eq_true.2 h)]

theorem hyphenated_of_visible (h : ∀ c ∈ word, isBlank c = false) : hyphenated word = word := by
  cases word with
  | nil => rfl
  | cons c word =>
      have hvisible : ¬ (c :: word).all isBlank := by simp [h c List.mem_cons_self]
      rw [hyphenated, stretches_of_forall (List.cons_ne_nil c word) h, List.flatMap_singleton,
        if_neg hvisible]

/-- A text may be cut where white space starts or ends. -/
theorem hyphenated_append (h : ∀ c ∈ front.getLast?, ∀ d ∈ rest.head?, isBlank c ≠ isBlank d) :
    hyphenated (front ++ rest) = hyphenated front ++ hyphenated rest := by
  have hcut : stretches (front ++ rest) = stretches front ++ stretches rest :=
    List.splitBy_append fun c hc d hd => beq_eq_false_iff_ne.2 (h c hc d hd)
  rw [hyphenated, hcut, List.flatMap_append]
  rfl

/-- White space up to the next visible character gives one hyphen. -/
theorem hyphenated_blank_cons (hc : isBlank c) (cs : List Char) :
    hyphenated (c :: cs) = '-' :: hyphenated (cs.dropWhile isBlank) := by
  have hrun : ∀ d ∈ c :: cs.takeWhile isBlank, isBlank d :=
    List.forall_mem_cons.2 ⟨hc, fun d hd => List.mem_takeWhile_imp hd⟩
  have hcut : ∀ d ∈ (c :: cs.takeWhile isBlank).getLast?, ∀ e ∈ (cs.dropWhile isBlank).head?,
      isBlank d ≠ isBlank e := by
    intro d hd e he
    have hvisible := List.head?_dropWhile_not isBlank cs
    rw [he] at hvisible
    rw [hrun d (List.mem_of_getLast? hd), hvisible]
    decide
  have hsplit : c :: cs = (c :: cs.takeWhile isBlank) ++ cs.dropWhile isBlank := by
    rw [List.cons_append, List.takeWhile_append_dropWhile]
  rw [hsplit, hyphenated_append hcut, hyphenated_of_blanks (List.cons_ne_nil _ _) hrun]
  rfl

/-- A word stays as it is in front of white space. -/
theorem hyphenated_word_append (hword : ∀ c ∈ word, isBlank c = false)
    (hrest : ∀ d ∈ rest.head?, isBlank d) :
    hyphenated (word ++ rest) = word ++ hyphenated rest := by
  have hcut : ∀ c ∈ word.getLast?, ∀ d ∈ rest.head?, isBlank c ≠ isBlank d := by
    intro c hc d hd
    rw [hword c (List.mem_of_getLast? hc), hrest d hd]
    decide
  rw [hyphenated_append hcut, hyphenated_of_visible hword]

/-- What has no white space stays as it is, whatever comes after it. -/
theorem hyphenated_visible_append (h : ∀ c ∈ front, isBlank c = false) (cs : List Char) :
    hyphenated (front ++ cs) = front ++ hyphenated cs := by
  -- The front and the word that follows it are one word.
  obtain ⟨word, rest, hcs, hword, hrest⟩ : ∃ word rest, cs = word ++ rest ∧
      (∀ c ∈ word, isBlank c = false) ∧ ∀ d ∈ rest.head?, isBlank d := by
    refine ⟨cs.takeWhile (!isBlank ·), cs.dropWhile (!isBlank ·),
      List.takeWhile_append_dropWhile.symm, fun c hc => ?_, fun d hd => ?_⟩
    · simpa using List.mem_takeWhile_imp hc
    · have hblank := List.head?_dropWhile_not (!isBlank ·) cs
      rw [hd] at hblank
      simpa using hblank
  have hwhole : ∀ c ∈ front ++ word, isBlank c = false :=
    List.forall_mem_append.2 ⟨h, hword⟩
  rw [hcs, ← List.append_assoc, hyphenated_word_append hwhole hrest,
    hyphenated_word_append hword hrest, List.append_assoc]

/-! ## Three passes and one -/

/-- The slug of a text in three steps: lower case, one hyphen for each run of white space, and
nothing but the characters of slugs. -/
def slugSteps (lower : Char → List Char) (cs : List Char) : List Char :=
  (hyphenated (cs.flatMap lower)).filter isSlugChar

section

variable {lower : Char → List Char}

/-- The white space in front of a text is the same in lower case. -/
theorem dropWhile_flatMap (hlower : IsLowering lower) (cs : List Char) :
    (cs.flatMap lower).dropWhile isBlank = (cs.dropWhile isBlank).flatMap lower := by
  induction cs with
  | nil => rfl
  | cons c cs ih =>
      rw [List.flatMap_cons]
      by_cases hc : isBlank c
      · rw [hlower.of_isBlank c hc, List.singleton_append, List.dropWhile_cons_of_pos hc,
          List.dropWhile_cons_of_pos hc, ih]
      · rw [List.dropWhile_cons_of_neg hc, List.flatMap_cons]
        -- A character without an image would let the white space behind it come to the front.
        obtain ⟨d, ds, hd⟩ := List.exists_cons_of_ne_nil (hlower.ne_nil c)
        have hvisible : isBlank d = false :=
          hlower.isBlank_of_mem c (by simpa using hc) d (by rw [hd]; exact List.mem_cons_self)
        rw [hd, List.cons_append, List.dropWhile_cons_of_neg (by simp [hvisible])]

theorem slugSteps_blank_cons (hlower : IsLowering lower) (hc : isBlank c) (cs : List Char) :
    slugSteps lower (c :: cs) = '-' :: slugSteps lower (cs.dropWhile isBlank) := by
  rw [slugSteps, List.flatMap_cons, hlower.of_isBlank c hc, List.singleton_append,
    hyphenated_blank_cons hc, dropWhile_flatMap hlower]
  exact List.filter_cons_of_pos (by decide)

theorem slugSteps_visible_cons (hlower : IsLowering lower) (hc : isBlank c = false)
    (cs : List Char) :
    slugSteps lower (c :: cs) = (lower c).filter isSlugChar ++ slugSteps lower cs := by
  rw [slugSteps, List.flatMap_cons, hyphenated_visible_append (hlower.isBlank_of_mem c hc),
    List.filter_append]
  rfl

/-- The flag says that the run at the front of the text gave its hyphen already. -/
theorem slugChars_eq (hlower : IsLowering lower) (afterBlank : Bool) (cs : List Char) :
    slugChars lower afterBlank cs =
      slugSteps lower (if afterBlank then cs.dropWhile isBlank else cs) := by
  -- A blank sets the flag and a visible character clears it, so both values go along.
  induction cs generalizing afterBlank with
  | nil => cases afterBlank <;> rfl
  | cons c cs ih =>
      rw [slugChars]
      by_cases hc : isBlank c
      · cases afterBlank with
        | false =>
            rw [if_pos hc, ih true]
            exact (slugSteps_blank_cons hlower hc cs).symm
        | true =>
            rw [if_pos hc, ih true]
            simp [hc]
      · have hfront : (c :: cs).dropWhile isBlank = c :: cs := List.dropWhile_cons_of_neg hc
        rw [if_neg hc, ih false, hfront, ite_self]
        exact (slugSteps_visible_cons hlower (by simpa using hc) cs).symm

/-! ## Slugs of slugs -/

theorem toNat_of_isSlugChar (h : isSlugChar c) : c.toNat < 128 := by
  simp only [isSlugChar, Bool.or_eq_true, Bool.and_eq_true, decide_eq_true_eq, beq_iff_eq,
    Char.le_def, UInt32.le_iff_toNat_le, Char.ext_iff, ← UInt32.toNat_inj, Char.reduceVal,
    UInt32.reduceToNat] at h
  rw [Char.toNat]
  omega

/-- What slugs are made of is visible and in lower case. -/
theorem visible_of_isSlugChar (h : isSlugChar c) : isBlank c = false ∧ c.toLower = c := by
  have hascii := toNat_of_isSlugChar h
  revert h
  exact of_ascii (fun c => isSlugChar c → isBlank c = false ∧ c.toLower = c) (by decide) hascii

/-- The three steps leave a text alone that is made of the characters of slugs. -/
theorem slugSteps_of_isSlugChar (hlower : IsLowering lower) (h : ∀ c ∈ cs, isSlugChar c) :
    slugSteps lower cs = cs := by
  have hcase : ∀ c ∈ cs, lower c = [c] := by
    intro c hc
    rw [hlower.of_ascii c (toNat_of_isSlugChar (h c hc)), (visible_of_isSlugChar (h c hc)).2]
  have hvisible : ∀ c ∈ cs, isBlank c = false := fun c hc => (visible_of_isSlugChar (h c hc)).1
  rw [slugSteps, List.flatMap_congr hcase, List.flatMap_singleton', hyphenated_of_visible hvisible,
    List.filter_eq_self]
  exact h

theorem slugChars_slugChars (hlower : IsLowering lower) (cs : List Char) :
    slugChars lower false (slugChars lower false cs) = slugChars lower false cs :=
  (slugChars_eq hlower false _).trans
    (slugSteps_of_isSlugChar hlower (isSlugChar_of_mem_slugChars lower false cs))

end

/-- A slug is what the three steps make of its text, and it is its own slug.  Of the tables of
letter case this takes only what `IsLowering` says, so it holds under any that are like this. -/
theorem slug_eq_slugSteps (text : String) :
    (slug text = String.ofList (slugSteps lowercase text.toList) ∧ slug (slug text) = slug text) ∧
    ∀ lower, IsLowering lower →
      slugChars lower false text.toList = slugSteps lower text.toList ∧
        slugChars lower false (slugChars lower false text.toList) =
          slugChars lower false text.toList := by
  refine ⟨⟨?_, ?_⟩, fun lower hlower => ⟨?_, ?_⟩⟩
  · rw [slug, slugChars_eq isLowering_lowercase]
    rfl
  · rw [slug, slug, String.toList_ofList, slugChars_slugChars isLowering_lowercase]
  · exact slugChars_eq hlower false text.toList
  · exact slugChars_slugChars hlower text.toList

/-- Capitals of which one becomes two characters and one an ASCII letter, runs of white space of
several kinds, and a mark between two of them that no slug has. -/
def spacedCapitals : String :=
  "\u2003İ \tT\u212a\u00a0& x"

theorem slug_eq_slugSteps_spacedCapitals :
    IsLowering lowercase ∧ slug spacedCapitals = "-i-tk--x" ∧ slug "-i-tk--x" = "-i-tk--x" ∧
      slugChars lowercase false spacedCapitals.toList =
        slugSteps lowercase spacedCapitals.toList := by
  have hslug : slug spacedCapitals = "-i-tk--x" := by decide +kernel
  obtain ⟨⟨-, hagain⟩, hgeneral⟩ := slug_eq_slugSteps spacedCapitals
  rw [hslug] at hagain
  exact ⟨isLowering_lowercase, hslug, hagain, (hgeneral lowercase isLowering_lowercase).1⟩

end Folio
