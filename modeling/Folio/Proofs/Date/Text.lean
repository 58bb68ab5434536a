import Folio.Date
import Folio.Proofs.Text.Numeral
import Folio.Proofs.Text.Word

/-!
# Written dates

A date is read again from its own text, and the date of a timestamp is the one it writes, whatever
its time and its offset.  White space around either makes no difference.
-/

namespace Folio.Date

open Folio.Text

/-! ## Numbers of a date -/

theorem of?_self (date : Date) : of? date.year date.month date.day = some date :=
  dif_pos date.isDay_eq

theorem daysInMonth_le (year : Int) (month : Nat) : daysInMonth year month ≤ 31 := by
  unfold daysInMonth
  split
  · split <;> decide
  all_goals decide

/-- Months and days have two digits. -/
theorem month_lt_and_day_lt (date : Date) : date.month < 10 ^ 2 ∧ date.day < 10 ^ 2 := by
  have hday := date.isDay_eq
  have hlast := daysInMonth_le date.year date.month
  simp only [isDay, Bool.and_eq_true, decide_eq_true_eq] at hday
  omega

theorem isBlank_head?_padded (width n : Nat) (rest : List Char) :
    ∀ c ∈ (padded width n ++ rest).head?, isBlank c = false := by
  obtain ⟨c, digits, hdigits, hc⟩ := exists_padded_eq_cons width n
  rw [hdigits]
  rintro _ ⟨⟩
  exact isBlank_of_isDigit hc

theorem isBlank_getLast?_padded (width n : Nat) (front : List Char) :
    ∀ c ∈ (front ++ padded width n).getLast?, isBlank c = false := by
  intro c hc
  rw [List.getLast?_append_of_ne_nil _ (padded_ne_nil width n)] at hc
  exact isBlank_of_isDigit (isDigit_of_mem_padded (List.mem_of_getLast? hc))

/-! ## Years -/

/-- A year without a sign has at most four digits. -/
theorem year?_padded_append {n : Nat} (hn : n < 10 ^ 4) (rest : List Char) :
    year? (padded 4 n ++ rest) = some ((n : Int), rest) := by
  obtain ⟨c, digits, hdigits, hc⟩ := exists_padded_eq_cons 4 n
  have hread := numeral?_padded (by decide) (by decide : 1 ≤ 4) hn rest
  rw [hdigits, List.cons_append] at hread ⊢
  rw [year?, hread]
  · rfl
  · exact fun _ heq => ne_of_isDigit hc rfl (List.cons.inj heq).1
  · exact fun _ heq => ne_of_isDigit hc rfl (List.cons.inj heq).1

/-- A year with a sign has all the digits there are. -/
theorem year?_sign_cons (n : Nat) {rest : List Char} (hrest : ∀ c ∈ rest.head?, c.isDigit = false) :
    year? ('-' :: (padded 4 n ++ rest)) = some (-(n : Int), rest) ∧
      year? ('+' :: (padded 4 n ++ rest)) = some ((n : Int), rest) := by
  have hsize : numeral? 1 (padded 4 n ++ rest).length (padded 4 n ++ rest) = some (n, rest) :=
    numeral?_padded_of_head? (by simp) hrest
  constructor
  · rw [year?, hsize]
    rfl
  · rw [year?, hsize]
    rfl

/-- A year has four digits, or a sign and its digits. -/
theorem yearText_cases (year : Int) :
    (∃ n : Nat, n < 10 ^ 4 ∧ year = n ∧ yearText year = padded 4 n) ∨
      (∃ n : Nat, 0 < n ∧ year = -n ∧ yearText year = '-' :: padded 4 n) ∨
      ∃ n : Nat, 10 ^ 4 ≤ n ∧ year = n ∧ yearText year = '+' :: padded 4 n := by
  unfold yearText
  split
  case isTrue hyear =>
    simp only [Bool.and_eq_true, decide_eq_true_eq] at hyear
    exact Or.inl ⟨year.toNat, by omega, by omega, rfl⟩
  case isFalse hyear =>
    simp only [Bool.and_eq_true, decide_eq_true_eq] at hyear
    split
    · exact Or.inr (Or.inl ⟨year.natAbs, by omega, by omega, rfl⟩)
    · exact Or.inr (Or.inr ⟨year.natAbs, by omega, by omega, rfl⟩)

theorem year?_yearText (year : Int) (rest : List Char) :
    year? (yearText year ++ '-' :: rest) = some (year, '-' :: rest) := by
  have hrest : ∀ c ∈ ('-' :: rest).head?, c.isDigit = false := by simp
  obtain ⟨n, hn, hyear, htext⟩ | ⟨n, -, hyear, htext⟩ | ⟨n, -, hyear, htext⟩ := yearText_cases year
  · rw [htext, year?_padded_append hn, hyear]
  · rw [htext, List.cons_append, (year?_sign_cons n hrest).1, hyear]
  · rw [htext, List.cons_append, (year?_sign_cons n hrest).2, hyear]

theorem isBlank_head?_yearText (year : Int) (rest : List Char) :
    ∀ c ∈ (yearText year ++ rest).head?, isBlank c = false := by
  obtain ⟨n, -, -, htext⟩ | ⟨n, -, -, htext⟩ | ⟨n, -, -, htext⟩ := yearText_cases year
  · rw [htext]
    exact isBlank_head?_padded 4 n rest
  · rw [htext]
    rintro _ ⟨⟩
    rfl
  · rw [htext]
    rintro _ ⟨⟩
    rfl

/-! ## Days -/

theorem toList_text (date : Date) :
    date.text.toList = yearText date.year ++ '-' :: padded 2 date.month ++
      '-' :: padded 2 date.day :=
  String.toList_ofList

/-- A day is read from its text if nothing comes after it. -/
theorem ofDayText?_text_append (date : Date) (rest : List Char) :
    ofDayText? (date.text.toList ++ rest) = if rest.isEmpty then some date else none := by
  obtain ⟨hmonth, hday⟩ := date.month_lt_and_day_lt
  have hdrop {cs : List Char} (hcs : ∀ c ∈ cs.head?, isBlank c = false) :
      cs.dropWhile isBlank = cs :=
    dropWhile_front (List.forall_mem_nil _) hcs
  rw [toList_text]
  simp only [List.append_assoc, List.cons_append]
  rw [ofDayText?, hdrop (isBlank_head?_yearText _ _), year?_yearText]
  simp only [Option.bind_eq_bind, Option.bind_some, expect, ↓reduceIte,
    hdrop (isBlank_head?_padded _ _ _),
    numeral?_padded (by decide : 0 < 2) (by decide : 1 ≤ 2) hmonth,
    numeral?_padded (by decide : 0 < 2) (by decide : 1 ≤ 2) hday, of?_self]

theorem parse?_text (date : Date) {lead tail : List Char} (hlead : ∀ c ∈ lead, isBlank c)
    (htail : ∀ c ∈ tail, isBlank c) :
    parse? (String.ofList (lead ++ (date.text.toList ++ tail))) = some date := by
  have htrim : trim (lead ++ (date.text.toList ++ tail)) = date.text.toList := by
    refine trim_framed hlead htail ?_ ?_
    · rw [toList_text, List.append_assoc]
      exact isBlank_head?_yearText _ _
    · rw [toList_text, List.append_cons]
      exact isBlank_getLast?_padded _ _ _
  have hread := ofDayText?_text_append date []
  rw [List.append_nil] at hread
  rw [parse?, String.toList_ofList, htrim, hread]
  rfl

/-- Years with four digits have no sign, earlier ones have a minus and later ones a plus. -/
theorem head?_text (date : Date) :
    (date.text.toList.head? = some '-' ↔ date.year < 0) ∧
      (date.text.toList.head? = some '+' ↔ 9999 < date.year) := by
  rw [toList_text, List.append_assoc]
  obtain ⟨n, hn, hyear, htext⟩ | ⟨n, hn, hyear, htext⟩ | ⟨n, hn, hyear, htext⟩ :=
    yearText_cases date.year
  · obtain ⟨c, digits, hdigits, hc⟩ := exists_padded_eq_cons 4 n
    have hminus : c ≠ '-' := ne_of_isDigit hc rfl
    have hplus : c ≠ '+' := ne_of_isDigit hc rfl
    rw [htext, hdigits, hyear]
    simp [hminus, hplus]
    omega
  · rw [htext, hyear]
    simp
    omega
  · rw [htext, hyear]
    simp
    omega

/-! ## Timestamps -/

/-- An offset from the time of Greenwich, as it is written in a timestamp. -/
inductive Offset where
  | greenwich (letter : Char) (hletter : letter = 'Z' ∨ letter = 'z')
  | apart (sign : Char) (hsign : sign = '+' ∨ sign = '-') (hours minutes : Nat)
      (hhours : hours ≤ 23) (hminutes : minutes ≤ 59)

namespace Offset

/-- The characters of an offset. -/
def written : Offset → List Char
  | greenwich letter _ => [letter]
  | apart sign _ hours minutes _ _ => sign :: padded 2 hours ++ ':' :: padded 2 minutes

theorem offset?_written (offset : Offset) : offset? offset.written = some [] := by
  cases offset with
  | greenwich letter hletter => exact if_pos hletter
  | apart sign hsign hours minutes hhours hminutes =>
      have hletter : ¬(sign = 'Z' ∨ sign = 'z') := by
        rcases hsign with rfl | rfl <;> decide
      have hminute := numeral?_padded (by decide) le_rfl (by omega : minutes < 10 ^ 2) []
      rw [List.append_nil] at hminute
      simp only [written, List.cons_append, offset?]
      rw [if_neg hletter, if_pos (by tauto)]
      simp only [numeral?_padded (by decide) le_rfl (by omega : hours < 10 ^ 2), expect, hminute,
        Option.bind_eq_bind, Option.bind_some, ↓reduceIte, hhours, hminutes, decide_true,
        Bool.and_self]

/-- An offset starts with something that no number goes on with. -/
theorem head?_written (offset : Offset) :
    ∀ c ∈ offset.written.head?, c ≠ '.' ∧ c.isDigit = false := by
  rcases offset with ⟨letter, rfl | rfl⟩ | ⟨sign, rfl | rfl, hours, minutes, -, -⟩ <;>
  · rintro _ ⟨⟩
    decide

theorem isBlank_getLast?_written (offset : Offset) (front : List Char) :
    ∀ c ∈ (front ++ offset.written).getLast?, isBlank c = false := by
  cases offset with
  | greenwich letter hletter =>
      rw [written, List.getLast?_concat]
      rintro _ ⟨⟩
      rcases hletter with rfl | rfl <;> rfl
  | apart sign hsign hours minutes hhours hminutes =>
      rw [written, List.append_cons _ ':', ← List.append_assoc]
      exact isBlank_getLast?_padded _ _ _

end Offset

/-- A day of a year with four digits, a time of the day and an offset, as a timestamp gives them. -/
structure Timestamp where
  date : Date
  year_mem : 0 ≤ date.year ∧ date.year ≤ 9999
  /-- What stands between the day and the time. -/
  separator : Char
  separator_eq : separator = 'T' ∨ separator = 't' ∨ separator = ' '
  hour : Nat
  hour_le : hour ≤ 23
  minute : Nat
  minute_le : minute ≤ 59
  second : Nat
  second_le : second ≤ 60
  /-- The decimals of the second; without any there is no point. -/
  decimals : List Char
  isDigit_decimals : ∀ c ∈ decimals, c.isDigit
  offset : Offset

namespace Timestamp

/-- The characters of the decimals and what comes after them. -/
def fraction (timestamp : Timestamp) : List Char :=
  (if timestamp.decimals.isEmpty then [] else '.' :: timestamp.decimals) ++ timestamp.offset.written

/-- The characters of a timestamp. -/
def written (timestamp : Timestamp) : List Char :=
  timestamp.date.text.toList ++ timestamp.separator :: (padded 2 timestamp.hour ++
    ':' :: (padded 2 timestamp.minute ++ ':' :: (padded 2 timestamp.second ++ timestamp.fraction)))

theorem fraction?_fraction (timestamp : Timestamp) :
    fraction? timestamp.fraction = some timestamp.offset.written := by
  rw [fraction]
  cases hdecimals : timestamp.decimals with
  | nil =>
      rw [List.isEmpty_nil, if_pos rfl, List.nil_append]
      have hoffset := timestamp.offset.head?_written
      unfold fraction?
      split
      · rename_i hcs
        rw [hcs] at hoffset
        exact ((hoffset '.' rfl).1 rfl).elim
      · rfl
  | cons c decimals =>
      have hdigits := timestamp.isDigit_decimals
      rw [hdecimals] at hdigits
      have hoffset : ∀ c ∈ timestamp.offset.written.head?, c.isDigit = false :=
        fun c hc => (timestamp.offset.head?_written c hc).2
      have hread := numeral?_append hdigits (by simp : 1 ≤ (c :: decimals).length)
        (by simp : _ ≤ (c :: decimals ++ timestamp.offset.written).length) (Or.inr hoffset)
      rw [List.isEmpty_cons, if_neg Bool.false_ne_true, List.cons_append]
      show (numeral? 1 (c :: decimals ++ _).length (c :: decimals ++ _)).map (·.2) = _
      rw [hread]
      rfl

theorem ofTimestamp?_written (timestamp : Timestamp) :
    ofTimestamp? timestamp.written = some timestamp.date := by
  obtain ⟨hmonth, hday⟩ := timestamp.date.month_lt_and_day_lt
  obtain ⟨hlow, hhigh⟩ := timestamp.year_mem
  have hyear : yearText timestamp.date.year = padded 4 timestamp.date.year.toNat := by
    rw [yearText, if_pos (by simp [hlow, hhigh])]
  have hvalue : ((timestamp.date.year.toNat : Nat) : Int) = timestamp.date.year :=
    Int.toNat_of_nonneg hlow
  have hfour := numeral?_padded (by decide) le_rfl (by omega : timestamp.date.year.toNat < 10 ^ 4)
  have htwo {n : Nat} (hn : n < 10 ^ 2) := numeral?_padded (by decide) (le_refl 2) hn
  have hhour := timestamp.hour_le
  have hminute := timestamp.minute_le
  have hsecond := timestamp.second_le
  rw [written, toList_text, hyear]
  simp only [List.append_assoc, List.cons_append]
  unfold ofTimestamp?
  simp only [Option.bind_eq_bind, Option.bind_some, hfour, expect, ↓reduceIte, htwo hmonth,
    htwo hday, timestamp.separator_eq, not_true_eq_false, htwo (by omega : timestamp.hour < 10 ^ 2),
    htwo (by omega : timestamp.minute < 10 ^ 2), htwo (by omega : timestamp.second < 10 ^ 2),
    fraction?_fraction, Offset.offset?_written, hhour, hminute, hsecond, decide_true, Bool.and_self,
    List.isEmpty_nil, hvalue, of?_self]

/-- A timestamp stands for the day it writes. -/
theorem parse?_written (timestamp : Timestamp) {lead tail : List Char}
    (hlead : ∀ c ∈ lead, isBlank c) (htail : ∀ c ∈ tail, isBlank c) :
    parse? (String.ofList (lead ++ (timestamp.written ++ tail))) = some timestamp.date := by
  have htrim : trim (lead ++ (timestamp.written ++ tail)) = timestamp.written := by
    refine trim_framed hlead htail ?_ ?_
    · rw [written, toList_text]
      simp only [List.append_assoc]
      exact isBlank_head?_yearText _ _
    · simp only [written, fraction, ← List.append_assoc, ← List.cons_append]
      exact timestamp.offset.isBlank_getLast?_written _
  -- As a day the text is too long, so it is read as a timestamp.
  have hday : ofDayText? timestamp.written = none := ofDayText?_text_append _ _
  rw [parse?, String.toList_ofList, htrim, hday, ofTimestamp?_written]
  rfl

end Timestamp

end Folio.Date
