import Folio.Proofs.Text.Line

/-!
# Words

The words of a text are cut at its white space, so they may be read off stretch by stretch, and
white space at the ends of a text makes no difference to them.
-/

namespace Folio.Text

variable {c : Char} {front word rest : List Char}

/-- A blank ends the word before it. -/
theorem wordsFrom_append_blank (hc : isBlank c) (word front rest : List Char) :
    wordsFrom word (front ++ c :: rest) = wordsFrom word front ++ words rest := by
  induction front generalizing word with
  | nil =>
      rw [List.nil_append, wordsFrom.eq_2, if_pos hc, wordsFrom.eq_1]
      split <;> rfl
  | cons d front ih =>
      rw [List.cons_append, wordsFrom, wordsFrom]
      by_cases hd : isBlank d
      · rw [if_pos hd, if_pos hd]
        split
        · exact ih []
        · rw [ih, List.cons_append]
      · rw [if_neg hd, if_neg hd, ih]

theorem words_append_blank (hc : isBlank c) (front rest : List Char) :
    words (front ++ c :: rest) = words front ++ words rest :=
  wordsFrom_append_blank hc [] front rest

theorem words_blank_cons (hc : isBlank c) (rest : List Char) : words (c :: rest) = words rest :=
  words_append_blank hc [] rest

/-- Blanks at the start make no difference. -/
theorem words_blank_append (h : ∀ c ∈ front, isBlank c) (rest : List Char) :
    words (front ++ rest) = words rest := by
  induction front with
  | nil => rfl
  | cons c front ih =>
      rw [List.forall_mem_cons] at h
      rw [List.cons_append, words_blank_cons h.1, ih h.2]

/-- Blanks at the end make no difference. -/
theorem words_append_blanks {tail : List Char} (h : ∀ c ∈ tail, isBlank c) (front : List Char) :
    words (front ++ tail) = words front := by
  cases tail with
  | nil => rw [List.append_nil]
  | cons c tail =>
      rw [List.forall_mem_cons] at h
      have htail : words (tail ++ []) = words [] := words_blank_append h.2 []
      rw [List.append_nil] at htail
      rw [words_append_blank h.1, htail]
      exact List.append_nil _

/-- A text is its trimmed form between blanks. -/
theorem exists_trim_eq (cs : List Char) : ∃ lead tail, cs = lead ++ (trim cs ++ tail) ∧
    (∀ c ∈ lead, isBlank c) ∧ ∀ c ∈ tail, isBlank c := by
  refine ⟨cs.takeWhile isBlank, (cs.dropWhile isBlank).rtakeWhile isBlank, ?_, fun c hc => ?_,
    fun c hc => ?_⟩
  · rw [trim, dropBothWhile, dropEndWhile_append_rtakeWhile, List.takeWhile_append_dropWhile]
  · exact List.mem_takeWhile_imp hc
  · exact List.mem_rtakeWhile_imp hc

/-- White space around a text is all that is lost when the text neither starts nor ends with any. -/
theorem trim_framed {lead cs tail : List Char} (hlead : ∀ c ∈ lead, isBlank c)
    (htail : ∀ c ∈ tail, isBlank c) (hfirst : ∀ c ∈ cs.head?, isBlank c = false)
    (hlast : ∀ c ∈ cs.getLast?, isBlank c = false) : trim (lead ++ (cs ++ tail)) = cs := by
  cases cs with
  | nil => exact trim_eq_nil_iff.2 (by simpa [or_imp, forall_and] using ⟨hlead, htail⟩)
  | cons c cs =>
      have hdrop : (lead ++ (c :: cs ++ tail)).dropWhile isBlank = c :: cs ++ tail :=
        dropWhile_front hlead hfirst
      rw [trim, dropBothWhile, hdrop, dropEndWhile_append htail, dropEndWhile_eq_self_iff.2 hlast]

theorem length_trim_le (cs : List Char) : (trim cs).length ≤ cs.length := by
  obtain ⟨lead, tail, hcs, -, -⟩ := exists_trim_eq cs
  conv_rhs => rw [hcs, List.length_append, List.length_append]
  omega

theorem words_trim (cs : List Char) : words (trim cs) = words cs := by
  obtain ⟨lead, tail, hcs, hlead, htail⟩ := exists_trim_eq cs
  conv_rhs => rw [hcs, words_blank_append hlead, words_append_blanks htail]

/-- What has no blank goes into the word that is being read. -/
theorem wordsFrom_append (h : ∀ c ∈ front, isBlank c = false) (word rest : List Char) :
    wordsFrom word (front ++ rest) = wordsFrom (word ++ front) rest := by
  induction front generalizing word with
  | nil => rw [List.nil_append, List.append_nil]
  | cons c front ih =>
      rw [List.forall_mem_cons] at h
      rw [List.cons_append, wordsFrom, h.1, if_neg Bool.false_ne_true, ih h.2,
        List.append_cons word c front]

/-- The first word ends at the first blank. -/
theorem words_cons (hne : word ≠ []) (hword : ∀ c ∈ word, isBlank c = false)
    (hrest : ∀ c ∈ rest.head?, isBlank c) : words (word ++ rest) = word :: words rest := by
  have hempty : word.isEmpty = false := by simpa using hne
  rw [words, wordsFrom_append hword, List.nil_append]
  cases rest with
  | nil => rw [wordsFrom, hempty, if_neg Bool.false_ne_true]; rfl
  | cons c rest =>
      have hc := hrest c rfl
      rw [wordsFrom, if_pos hc, hempty, if_neg Bool.false_ne_true, words_blank_cons hc]
      rfl

end Folio.Text
