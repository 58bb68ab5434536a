import Folio.Code.Title
import Folio.Proofs.Text.Word

/-!
# Titles in notes

What it means that a note has a title, without the search for it: at its start or behind white space
stands `title=` and a text in quotes.  The search finds the first one.  Without it the note has a
title exactly if there is another one behind it.
-/

namespace Folio

open Folio.Text

/-! ## Quoted titles -/

/-- At the start are `title=`, a quote, the title, which does not hold this quote, the quote again,
and `after`. -/
def QuotesTitle (cs title after : List Char) : Prop :=
  ∃ quote ∈ ['"', '\''], quote ∉ title ∧
    cs = "title=".toList ++ quote :: (title ++ quote :: after)

/-- The place behind `before` is the start of a note, or behind white space. -/
def AtWord (before : List Char) : Prop :=
  ∀ c ∈ before.getLast?, isBlank c

/-- The note has a title between `before` and `after`. -/
def TitledAt (note before title after : List Char) : Prop :=
  AtWord before ∧ ∃ cs, note = before ++ cs ∧ QuotesTitle cs title after

/-- The note has its first title between `before` and `after`. -/
def FirstTitle (note before title after : List Char) : Prop :=
  TitledAt note before title after ∧ ∀ before' title' after',
    TitledAt note before' title' after' → before.length ≤ before'.length

/-- The note has a title. -/
def HasTitle (note : List Char) : Prop :=
  ∃ before title after, TitledAt note before title after

theorem dropStart?_eq_some_iff {start cs rest : List Char} :
    dropStart? start cs = some rest ↔ cs = start ++ rest := by
  unfold dropStart?
  constructor
  · intro h
    split at h
    · rename_i hfront
      obtain ⟨tail, rfl⟩ := List.isPrefixOf_iff_prefix.1 hfront
      rw [List.drop_left] at h
      rw [Option.some.inj h]
    · cases h
  · rintro rfl
    rw [if_pos (List.isPrefixOf_iff_prefix.2 (List.prefix_append start rest)), List.drop_left]

/-- A text up to its first quote. -/
theorem takeWhile_ne {quote : Char} {title : List Char} (h : quote ∉ title) (after : List Char) :
    (title ++ quote :: after).takeWhile (· != quote) = title :=
  takeWhile_front (fun _ hc => bne_iff_ne.2 (ne_of_mem_of_not_mem hc h)) (by simp)

theorem dropWhile_ne {quote : Char} {title : List Char} (h : quote ∉ title) (after : List Char) :
    (title ++ quote :: after).dropWhile (· != quote) = quote :: after :=
  dropWhile_front (fun _ hc => bne_iff_ne.2 (ne_of_mem_of_not_mem hc h)) (by simp)

theorem titleAt?_eq_some_iff {cs title after : List Char} :
    titleAt? cs = some (title, after) ↔ QuotesTitle cs title after := by
  constructor
  · intro h
    simp only [titleAt?, Option.bind_eq_bind, Option.bind_eq_some_iff] at h
    obtain ⟨body, hbody, h⟩ := h
    cases body with
    | nil => cases h
    | cons quote body =>
        by_cases hquote : quote = '"' ∨ quote = '\''
        · simp only [hquote, not_true, if_false] at h
          by_cases hclosed : quote ∈ body
          · obtain ⟨title, after, rfl, hnot⟩ := List.eq_append_cons_of_mem hclosed
            rw [takeWhile_ne hnot, dropWhile_ne hnot] at h
            cases h
            exact ⟨quote, by simpa using hquote, hnot, dropStart?_eq_some_iff.1 hbody⟩
          · have hopen : body.dropWhile (· != quote) = [] :=
              List.dropWhile_eq_nil_iff.2 fun c hc => bne_iff_ne.2 (ne_of_mem_of_not_mem hc hclosed)
            rw [hopen] at h
            cases h
        · simp only [hquote, not_false_eq_true, if_true] at h
          cases h
  · rintro ⟨quote, hquote, hnot, rfl⟩
    have hquote : quote = '"' ∨ quote = '\'' := by simpa using hquote
    have hstart := dropStart?_eq_some_iff.2
      (Eq.refl ("title=".toList ++ quote :: (title ++ quote :: after)))
    simp only [titleAt?, hstart, Option.bind_eq_bind, Option.bind_some, hquote, not_true, if_false,
      takeWhile_ne hnot, dropWhile_ne hnot]
    rfl

/-- A title is quoted as soon as there is a second quote. -/
theorem exists_quotesTitle_iff {cs : List Char} : (∃ title after, QuotesTitle cs title after) ↔
    ∃ quote ∈ ['"', '\''], ∃ body, cs = "title=".toList ++ quote :: body ∧ quote ∈ body := by
  constructor
  · rintro ⟨title, after, quote, hquote, -, rfl⟩
    exact ⟨quote, hquote, _, rfl, List.mem_append_right title List.mem_cons_self⟩
  · rintro ⟨quote, hquote, body, rfl, hclosed⟩
    obtain ⟨title, after, rfl, hnot⟩ := List.eq_append_cons_of_mem hclosed
    exact ⟨title, after, quote, hquote, hnot, rfl⟩

/-! ## The search -/

section

variable {c : Char} {note before title after : List Char}

theorem titledAt_nil : TitledAt note [] title after ↔ QuotesTitle note title after := by
  constructor
  · rintro ⟨-, cs, rfl, hcs⟩
    exact hcs
  · intro h
    exact ⟨fun c hc => (Option.not_mem_none c hc).elim, note, rfl, h⟩

theorem titledAt_singleton :
    TitledAt (c :: note) [c] title after ↔ isBlank c ∧ QuotesTitle note title after := by
  constructor
  · rintro ⟨hword, cs, hnote, hcs⟩
    cases hnote
    exact ⟨hword c rfl, hcs⟩
  · rintro ⟨hc, h⟩
    exact ⟨fun d hd => by rwa [← Option.some.inj hd], note, rfl, h⟩

theorem titledAt_cons (hne : before ≠ []) :
    TitledAt (c :: note) (c :: before) title after ↔ TitledAt note before title after := by
  have hword : AtWord (c :: before) ↔ AtWord before := by
    rw [AtWord, AtWord, List.getLast?_cons_of_ne_nil hne]
  constructor
  · rintro ⟨hbefore, cs, hnote, hcs⟩
    exact ⟨hword.1 hbefore, cs, (List.cons.inj hnote).2, hcs⟩
  · rintro ⟨hbefore, cs, rfl, hcs⟩
    exact ⟨hword.2 hbefore, cs, rfl, hcs⟩

/-- A title is at the start, or behind one blank, or further on. -/
theorem TitledAt.cases_cons (h : TitledAt (c :: note) before title after) :
    (before = [] ∧ QuotesTitle (c :: note) title after) ∨
      (before = [c] ∧ isBlank c ∧ QuotesTitle note title after) ∨
      ∃ front, front ≠ [] ∧ before = c :: front ∧ TitledAt note front title after := by
  cases before with
  | nil => exact Or.inl ⟨rfl, titledAt_nil.1 h⟩
  | cons d front =>
      obtain ⟨-, cs, hnote, -⟩ := id h
      obtain rfl : c = d := (List.cons.inj hnote).1
      by_cases hne : front = []
      · subst hne
        exact Or.inr (Or.inl ⟨rfl, titledAt_singleton.1 h⟩)
      · exact Or.inr (Or.inr ⟨front, hne, rfl, (titledAt_cons hne).1 h⟩)

theorem not_titledAt_nil : ¬TitledAt [] before title after := by
  rintro ⟨-, cs, hnote, quote, -, -, rfl⟩
  simp at hnote

/-- What a search should give: the first title, where one at the start only counts if it is looked
for there, or nothing if there is none. -/
def Finds (atStart : Bool) (note : List Char) : Option FoundTitle → Prop
  | none => ∀ before title after, (before = [] → atStart) → ¬TitledAt note before title after
  | some found => ∃ before, found.before = before.dropLast ∧ (before = [] → atStart) ∧
      TitledAt note before found.title found.after ∧
      ∀ before' title' after', (before' = [] → atStart) →
        TitledAt note before' title' after' → before.length ≤ before'.length

theorem finds_findTitle? (atStart : Bool) (note : List Char) :
    Finds atStart note (findTitle? atStart note) := by
  -- Along the search; what it has passed over is no title.
  fun_induction findTitle? atStart note with
  | case1 note atStart title after hfound =>
      obtain ⟨hstart, htitle⟩ := Option.ite_none_right_eq_some.1 hfound
      exact ⟨[], rfl, fun _ => hstart, titledAt_nil.2 (titleAt?_eq_some_iff.1 htitle),
        fun _ _ _ _ _ => Nat.zero_le _⟩
  | case2 => exact fun _ _ _ _ => not_titledAt_nil
  | case3 atStart c note title after hfound hnone =>
      obtain ⟨hc, htitle⟩ := Option.ite_none_right_eq_some.1 hfound
      refine ⟨[c], rfl, nofun, titledAt_singleton.2 ⟨hc, titleAt?_eq_some_iff.1 htitle⟩, ?_⟩
      intro before' title' after' hstart h'
      cases before' with
      | nil =>
          have hfirst := titleAt?_eq_some_iff.2 (titledAt_nil.1 h')
          rw [if_pos (hstart rfl), hfirst] at hnone
          cases hnone
      | cons d front => exact Nat.succ_le_succ (Nat.zero_le _)
  | case4 atStart c note hblank hnone ih =>
      have hfurther : ∀ {before title after}, (before = [] → atStart) →
          TitledAt (c :: note) before title after →
          ∃ front, front ≠ [] ∧ before = c :: front ∧ TitledAt note front title after := by
        intro before title after hstart h
        rcases h.cases_cons with ⟨rfl, hquotes⟩ | ⟨rfl, hc, hquotes⟩ | hfurther
        · rw [if_pos (hstart rfl), titleAt?_eq_some_iff.2 hquotes] at hnone
          cases hnone
        · rw [if_pos hc, titleAt?_eq_some_iff.2 hquotes] at hblank
          cases hblank
        · exact hfurther
      cases hrest : findTitle? false note with
      | none =>
          rw [hrest] at ih
          intro before title after hstart h
          obtain ⟨front, hne, -, hlater⟩ := hfurther hstart h
          exact ih front title after (fun hnil => (hne hnil).elim) hlater
      | some found =>
          rw [hrest] at ih
          obtain ⟨front, hfront, hne, htitled, hfirst⟩ := ih
          have hne : front ≠ [] := fun hnil => Bool.false_ne_true (hne hnil)
          refine ⟨c :: front, ?_, nofun, (titledAt_cons hne).2 htitled, ?_⟩
          · rw [List.dropLast_cons_of_ne_nil hne, ← hfront]
          · intro before' title' after' hstart h'
            obtain ⟨front', hne', rfl, hlater⟩ := hfurther hstart h'
            exact Nat.succ_le_succ
              (hfirst front' title' after' (fun hnil => (hne' hnil).elim) hlater)

/-- A note in which nothing is found has no title. -/
theorem findTitle?_eq_none_iff : findTitle? true note = none ↔ ¬HasTitle note := by
  have hfinds := finds_findTitle? true note
  constructor
  · rintro h ⟨before, title, after, htitled⟩
    rw [h] at hfinds
    exact hfinds before title after (fun _ => rfl) htitled
  · intro h
    cases hfound : findTitle? true note with
    | none => rfl
    | some found =>
        rw [hfound] at hfinds
        obtain ⟨before, -, -, htitled, -⟩ := hfinds
        exact (h ⟨before, _, _, htitled⟩).elim

/-- What is found is the first title. -/
theorem exists_firstTitle {found : FoundTitle} (h : findTitle? true note = some found) :
    ∃ before, found.before = before.dropLast ∧ FirstTitle note before found.title found.after := by
  have hfinds := finds_findTitle? true note
  rw [h] at hfinds
  obtain ⟨before, hbefore, -, htitled, hfirst⟩ := hfinds
  exact ⟨before, hbefore, htitled, fun _ _ _ => hfirst _ _ _ fun _ => rfl⟩

/-- There is one first title. -/
theorem FirstTitle.unique {before' title' after' : List Char}
    (h : FirstTitle note before title after) (h' : FirstTitle note before' title' after') :
    before = before' ∧ title = title' ∧ after = after' := by
  have hlen := Nat.le_antisymm (h.2 _ _ _ h'.1) (h'.2 _ _ _ h.1)
  obtain ⟨⟨-, cs, hnote, hcs⟩, -⟩ := h
  obtain ⟨⟨-, cs', hnote', hcs'⟩, -⟩ := h'
  obtain ⟨rfl, rfl⟩ := List.append_inj (hnote.symm.trans hnote') hlen
  have htitle := titleAt?_eq_some_iff.2 hcs
  rw [titleAt?_eq_some_iff.2 hcs'] at htitle
  cases htitle
  exact ⟨rfl, rfl, rfl⟩

/-- The first title is found. -/
theorem FirstTitle.findTitle?_eq (h : FirstTitle note before title after) :
    findTitle? true note = some ⟨before.dropLast, title, after⟩ := by
  cases hfound : findTitle? true note with
  | none => exact (findTitle?_eq_none_iff.1 hfound ⟨before, title, after, h.1⟩).elim
  | some found =>
      obtain ⟨before', hbefore', hfirst⟩ := exists_firstTitle hfound
      obtain ⟨rfl, rfl, rfl⟩ := h.unique hfirst
      rw [← hbefore']

end

/-! ## Another title -/

section

variable {note before title after : List Char}

/-- A title begins behind `before`: there are `title=` and a quote that is closed somewhere. -/
def TitleBegins (note before : List Char) : Prop :=
  AtWord before ∧ ∃ quote ∈ ['"', '\''], ∃ body,
    note = before ++ ("title=".toList ++ quote :: body) ∧ quote ∈ body

theorem titleBegins_iff :
    TitleBegins note before ↔ ∃ title after, TitledAt note before title after := by
  constructor
  · rintro ⟨hword, quote, hquote, body, rfl, hclosed⟩
    obtain ⟨title, after, h⟩ := exists_quotesTitle_iff.2 ⟨quote, hquote, body, rfl, hclosed⟩
    exact ⟨title, after, hword, _, rfl, h⟩
  · rintro ⟨title, after, hword, cs, rfl, h⟩
    obtain ⟨quote, hquote, body, rfl, hclosed⟩ := exists_quotesTitle_iff.1 ⟨title, after, h⟩
    exact ⟨hword, quote, hquote, body, rfl, hclosed⟩

theorem hasTitle_iff : HasTitle note ↔ ∃ before, TitleBegins note before := by
  simp only [HasTitle, titleBegins_iff]

theorem isBlank_quote {quote : Char} (h : quote ∈ ['"', '\'']) : isBlank quote = false := by
  have hquote : quote = '"' ∨ quote = '\'' := by simpa using h
  rcases hquote with rfl | rfl <;> rfl

/-- Where the back begins depends on the back alone, if there is one. -/
theorem atWord_append_iff {front back : List Char} (hfront : AtWord front) :
    AtWord (front ++ back) ↔ AtWord back := by
  cases back with
  | nil =>
      rw [List.append_nil]
      exact iff_of_true hfront fun c hc => (Option.not_mem_none c hc).elim
  | cons c back => rw [AtWord, AtWord, List.getLast?_append_of_ne_nil _ (List.cons_ne_nil c back)]

theorem atWord_of_blanks {front : List Char} (h : ∀ c ∈ front, isBlank c) : AtWord front :=
  fun c hc => h c (List.mem_of_getLast? hc)

/-- If all titles of a text begin in its back, it has those of its back. -/
theorem hasTitle_append_iff {front back : List Char} (hfront : AtWord front)
    (hback : ∀ before, TitleBegins (front ++ back) before → front.length ≤ before.length) :
    HasTitle (front ++ back) ↔ HasTitle back := by
  rw [hasTitle_iff, hasTitle_iff]
  constructor
  · rintro ⟨before, hbegins⟩
    have hlen := hback before hbegins
    obtain ⟨hword, quote, hquote, body, hnote, hclosed⟩ := hbegins
    rcases List.append_eq_append_iff.1 hnote with ⟨middle, rfl, hrest⟩ | ⟨middle, rfl, hrest⟩
    · exact ⟨middle, (atWord_append_iff hfront).1 hword, quote, hquote, body, hrest, hclosed⟩
    · -- The place is behind the front, so nothing is between them.
      rw [List.length_append] at hlen
      obtain rfl : middle = [] := List.eq_nil_of_length_eq_zero (by omega)
      rw [List.nil_append] at hrest
      exact ⟨[], fun c hc => (Option.not_mem_none c hc).elim, quote, hquote, body, hrest.symm,
        hclosed⟩
  · rintro ⟨before, hword, quote, hquote, body, rfl, hclosed⟩
    exact ⟨front ++ before, (atWord_append_iff hfront).2 hword, quote, hquote, body,
      (List.append_assoc _ _ _).symm, hclosed⟩

/-- What stands in a text but not in its front stands in its back. -/
theorem exists_back_of_not_mem {α : Type} {front back before rest : List α} {a : α}
    (h : front ++ back = before ++ a :: rest) (ha : a ∉ front) :
    ∃ middle, before = front ++ middle ∧ back = middle ++ a :: rest := by
  rcases List.append_eq_append_iff.1 h with ⟨middle, rfl, rfl⟩ | ⟨middle, rfl, hrest⟩
  · exact ⟨middle, rfl, rfl⟩
  · cases middle with
    | nil => exact ⟨[], by simp, by simpa using hrest.symm⟩
    | cons b middle =>
        cases hrest
        exact (ha (List.mem_append_right before List.mem_cons_self)).elim

/-- What stands in a text but not in its back stands in its front. -/
theorem exists_front_of_not_mem {α : Type} {front back before rest : List α} {a : α}
    (h : front ++ back = before ++ a :: rest) (ha : a ∉ back) :
    ∃ middle, front = before ++ a :: middle ∧ rest = middle ++ back := by
  rcases List.append_eq_append_iff.1 h with ⟨middle, rfl, hback⟩ | ⟨middle, rfl, hrest⟩
  · rw [hback] at ha
    exact (ha (List.mem_append_right middle List.mem_cons_self)).elim
  · cases middle with
    | nil =>
        have hback : back = a :: rest := by simpa using hrest.symm
        rw [hback] at ha
        exact (ha List.mem_cons_self).elim
    | cons b middle =>
        cases hrest
        exact ⟨middle, rfl, rfl⟩

theorem hasTitle_blank_append {front : List Char} (h : ∀ c ∈ front, isBlank c) (back : List Char) :
    HasTitle (front ++ back) ↔ HasTitle back := by
  refine hasTitle_append_iff (atWord_of_blanks h) fun before hbegins => ?_
  obtain ⟨-, quote, -, body, hnote, -⟩ := hbegins
  have ht : 't' ∉ front := fun hmem => absurd (h 't' hmem) (by decide)
  obtain ⟨middle, rfl, -⟩ := exists_back_of_not_mem hnote ht
  rw [List.length_append]
  exact Nat.le_add_right _ _

theorem hasTitle_append_blanks {tail : List Char} (h : ∀ c ∈ tail, isBlank c) (front : List Char) :
    HasTitle (front ++ tail) ↔ HasTitle front := by
  rw [hasTitle_iff, hasTitle_iff]
  constructor
  · rintro ⟨before, hword, quote, hquote, body, hnote, hclosed⟩
    obtain ⟨title, after, rfl⟩ := List.append_of_mem hclosed
    have htail : quote ∉ tail := fun hmem => by
      have hblank := h quote hmem
      rw [isBlank_quote hquote] at hblank
      cases hblank
    have hquoted : front ++ tail =
        (before ++ ("title=".toList ++ quote :: title)) ++ quote :: after := by
      rw [hnote]
      simp
    obtain ⟨middle, rfl, -⟩ := exists_front_of_not_mem hquoted htail
    exact ⟨before, hword, quote, hquote, title ++ quote :: middle, by simp,
      List.mem_append_right title List.mem_cons_self⟩
  · rintro ⟨before, hword, quote, hquote, body, rfl, hclosed⟩
    exact ⟨before, hword, quote, hquote, body ++ tail, by simp, List.mem_append_left tail hclosed⟩

/-- White space at its ends makes no difference to whether a text has a title. -/
theorem hasTitle_trim (cs : List Char) : HasTitle (trim cs) ↔ HasTitle cs := by
  obtain ⟨lead, tail, hcs, hlead, htail⟩ := exists_trim_eq cs
  conv_rhs => rw [hcs]
  rw [hasTitle_blank_append hlead, hasTitle_append_blanks htail]

/-- No title begins in front of the first one, nor where it was cut out: what begins there would
have begun in the note, because the quote that closes it stands there too. -/
theorem FirstTitle.length_le_of_cut (h : FirstTitle note before title after) {begin : List Char}
    (hbegins : TitleBegins (before.dropLast ++ ' ' :: after) begin) :
    before.dropLast.length < begin.length := by
  by_contra hlen
  obtain ⟨hword, quote, hquote, body, hcut, hclosed⟩ := hbegins
  have hblank : ' ' ≠ quote := by
    rintro rfl
    exact absurd (isBlank_quote hquote) (by decide)
  -- The front of the title has no blank, so it stands whole before the cut.
  have hopener : ' ' ∉ "title=".toList ++ [quote] := by simpa using hblank
  rcases List.append_eq_append_iff.1 hcut with ⟨middle, rfl, hrest⟩ | ⟨middle, hfront, hrest⟩
  · rw [List.length_append] at hlen
    obtain rfl : middle = [] := List.eq_nil_of_length_eq_zero (by omega)
    simp at hrest
  · have hopened : ("title=".toList ++ [quote]) ++ body = middle ++ ' ' :: after := by
      rw [← hrest]
      simp
    obtain ⟨start, rfl, rfl⟩ := exists_back_of_not_mem hopened hopener
    obtain ⟨⟨-, cs, rfl, hcs⟩, hfirst⟩ := h
    rcases List.eq_nil_or_concat before with rfl | ⟨front, c, rfl⟩
    · simp at hfront
    · rw [List.concat_eq_append, List.dropLast_concat] at hfront
      subst hfront
      have hafter : ∀ d ∈ after, d ∈ cs := by
        obtain ⟨other, -, -, rfl⟩ := hcs
        intro d hd
        simp [hd]
      have hkept : quote ∈ start ++ c :: cs := by
        rcases List.mem_append.1 hclosed with hmem | hmem
        · exact List.mem_append_left _ hmem
        · have hmem := (List.mem_cons.1 hmem).resolve_left hblank.symm
          exact List.mem_append_right start (List.mem_cons_of_mem c (hafter quote hmem))
      obtain ⟨title', after', htitled⟩ := titleBegins_iff.1
        ⟨hword, quote, hquote, start ++ c :: cs, rfl, hkept⟩
      have hle := hfirst begin title' after' (by simpa using htitled)
      rw [List.concat_eq_append, List.length_append, List.length_append, List.length_singleton]
        at hle
      omega

/-- Without its first title a note has one exactly if there is one behind the first. -/
theorem FirstTitle.hasTitle_rest (h : FirstTitle note before title after) :
    HasTitle (trim (before.dropLast ++ ' ' :: after)) ↔ HasTitle after := by
  have hword : AtWord (before.dropLast ++ [' ']) := by
    intro c hc
    rw [List.getLast?_concat] at hc
    cases hc
    rfl
  rw [hasTitle_trim, List.append_cons before.dropLast ' ' after]
  refine hasTitle_append_iff hword fun begin hbegins => ?_
  rw [← List.append_cons before.dropLast ' ' after] at hbegins
  rw [List.length_append]
  exact h.length_le_of_cut hbegins

end

end Folio
