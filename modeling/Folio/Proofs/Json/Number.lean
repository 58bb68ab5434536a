import Folio.Json.Source
import Folio.Number.Decimal
import Folio.Proofs.Text.Line
import Folio.Proofs.Text.Numeral

/-!
# Written numbers of JSON

The text of an integer and the text of a decimal fraction are numbers as JSON has them.
-/

namespace Folio.Json

open Folio.Text

/-! ## Parts of numbers -/

variable {digits fraction : List Char}

theorem isWhole_of_head? (hne : digits ≠ []) (hdigits : ∀ c ∈ digits, c.isDigit)
    (hzero : digits.head? ≠ some '0') : isWhole digits := by
  unfold isWhole
  split
  · exact (hne rfl).elim
  · exact (hzero rfl).elim
  · exact List.all_eq_true.2 hdigits

/-- The digits of a number have no zero in front. -/
theorem isWhole_toDigits (n : Nat) : isWhole (Nat.toDigits 10 n) := by
  by_cases hn : n = 0
  · rw [hn]
    rfl
  · exact isWhole_of_head? Nat.toDigits_ne_nil (fun _ => isDigit_of_mem_toDigits)
      (head?_toDigits_ne_zero hn)

/-- An exponent is a run of digits, with a sign or without one. -/
theorem isExponent_digits (hne : digits ≠ []) (hdigits : ∀ c ∈ digits, c.isDigit) :
    isExponent ('e' :: digits) ∧ isExponent ('e' :: '-' :: digits) := by
  have hall : digits.all Char.isDigit := List.all_eq_true.2 hdigits
  obtain ⟨d, ds, rfl⟩ := List.exists_cons_of_ne_nil hne
  have hd : d.isDigit := hdigits d List.mem_cons_self
  constructor
  · simp only [isExponent]
    split
    case h_1 heq => exact (ne_of_isDigit hd rfl (List.cons.inj heq).1).elim
    case h_2 heq => exact (ne_of_isDigit hd rfl (List.cons.inj heq).1).elim
    case h_3 =>
      rw [hall]
      rfl
  · simp only [isExponent, hall]
    rfl

/-- The digits of an integer, after a sign if it is negative. -/
theorem toList_toString_cases (i : Int) : ∃ n : Nat,
    (toString i).toList = Nat.toDigits 10 n ∨ (toString i).toList = '-' :: Nat.toDigits 10 n := by
  cases i with
  | ofNat n => exact ⟨n, Or.inl String.toList_ofList⟩
  | negSucc n =>
      refine ⟨n + 1, Or.inr ?_⟩
      show ("-" ++ Nat.repr (n + 1)).toList = _
      rw [String.toList_append]
      exact congrArg ('-' :: ·) String.toList_ofList

theorem isExponent_toString (i : Int) : isExponent ('e' :: (toString i).toList) := by
  obtain ⟨n, h | h⟩ := toList_toString_cases i
  · rw [h]
    exact (isExponent_digits Nat.toDigits_ne_nil fun _ => isDigit_of_mem_toDigits).1
  · rw [h]
    exact (isExponent_digits Nat.toDigits_ne_nil fun _ => isDigit_of_mem_toDigits).2

/-- Decimals are a run of digits after a point, and there may be an exponent after them. -/
theorem isFractionPart_digits (hne : digits ≠ []) (hdigits : ∀ c ∈ digits, c.isDigit)
    {exponent : List Char} (hexponent : isExponent exponent)
    (hhead : ∀ c ∈ exponent.head?, c.isDigit = false) :
    isFractionPart ('.' :: (digits ++ exponent)) := by
  have hdrop : (digits ++ exponent).dropWhile Char.isDigit = exponent :=
    dropWhile_front hdigits hhead
  obtain ⟨d, ds, rfl⟩ := List.exists_cons_of_ne_nil hne
  have hd : d.isDigit := hdigits d List.mem_cons_self
  rw [isFractionPart, hdrop, hexponent]
  simp [hd]

/-- Decimals alone. -/
theorem isFractionPart_decimals (hne : digits ≠ []) (hdigits : ∀ c ∈ digits, c.isDigit) :
    isFractionPart ('.' :: digits) := by
  have hdecimals := isFractionPart_digits hne hdigits (rfl : isExponent []) (by simp)
  rwa [List.append_nil] at hdecimals

/-! ## Numbers -/

/-- A run of digits and what comes after a point or in an exponent: the size of a number. -/
structure IsSize (digits fraction : List Char) : Prop where
  isWhole : isWhole digits
  isDigit : ∀ c ∈ digits, c.isDigit
  isFractionPart : isFractionPart fraction
  head? : ∀ c ∈ fraction.head?, c.isDigit = false

/-- A size is a number, with a minus sign or without one. -/
theorem IsSize.isNumber (h : IsSize digits fraction) :
    isNumber (digits ++ fraction) ∧ isNumber ('-' :: (digits ++ fraction)) := by
  have htake : (digits ++ fraction).takeWhile Char.isDigit = digits :=
    takeWhile_front h.isDigit h.head?
  have hdrop : (digits ++ fraction).dropWhile Char.isDigit = fraction :=
    dropWhile_front h.isDigit h.head?
  have hsize : (Json.isWhole ((digits ++ fraction).takeWhile Char.isDigit) &&
      Json.isFractionPart ((digits ++ fraction).dropWhile Char.isDigit)) = true := by
    rw [htake, hdrop, h.isWhole, h.isFractionPart]
    rfl
  refine ⟨?_, hsize⟩
  have hsign : ∀ rest, digits ++ fraction ≠ '-' :: rest := by
    intro rest heq
    cases digits with
    | nil => cases h.isWhole
    | cons d ds =>
        exact ne_of_isDigit (h.isDigit d List.mem_cons_self) rfl (List.cons.inj heq).1
  simp only [Json.isNumber]
  exact hsize

theorem isSize_toDigits (n : Nat) : IsSize (Nat.toDigits 10 n) [] where
  isWhole := isWhole_toDigits n
  isDigit := fun _ => isDigit_of_mem_toDigits
  isFractionPart := rfl
  head? := by simp

theorem isNumber_toString (i : Int) : isNumber (toString i).toList := by
  obtain ⟨n, h⟩ := toList_toString_cases i
  have hn := (isSize_toDigits n).isNumber
  rw [List.append_nil] at hn
  rcases h with h | h
  · rw [h]
    exact hn.1
  · rw [h]
    exact hn.2

/-- A run of digits without a zero in front is laid out as a size. -/
theorem exists_layout_eq (hne : digits ≠ []) (hdigits : ∀ c ∈ digits, c.isDigit)
    (hzero : digits.head? ≠ some '0') (exponent : Int) : ∃ whole fraction,
    Number.Decimal.layout digits exponent = whole ++ fraction ∧ IsSize whole fraction := by
  have hzeros {n : Nat} : ∀ c ∈ List.replicate n '0', c.isDigit := by
    intro c hc
    rw [List.eq_of_mem_replicate hc]
    rfl
  simp only [Number.Decimal.layout, Bool.and_eq_true, decide_eq_true_eq]
  split
  case isTrue =>
    have hall : ∀ c ∈ digits ++ List.replicate exponent.toNat '0', c.isDigit :=
      List.forall_mem_append.2 ⟨hdigits, hzeros⟩
    refine ⟨_, ['.', '0'], rfl, isWhole_of_head? (by simp [hne]) hall ?_, hall, rfl, by simp⟩
    rwa [List.head?_append_of_ne_nil _ hne]
  case isFalse hlong =>
    split
    case isTrue hpoint =>
      -- The point stands inside the run.
      obtain ⟨point, hplace⟩ : ∃ n : Nat, (digits.length + exponent : Int) = n :=
        ⟨_, (Int.toNat_of_nonneg (by omega)).symm⟩
      rw [hplace, Int.toNat_natCast]
      have hfront : ∀ c ∈ digits.take point, c.isDigit :=
        fun c hc => hdigits c (List.mem_of_mem_take hc)
      have hback : ∀ c ∈ digits.drop point, c.isDigit :=
        fun c hc => hdigits c (List.mem_of_mem_drop hc)
      have hwhole : isWhole (digits.take point) := by
        refine isWhole_of_head? ?_ hfront ?_
        · rw [ne_eq, List.take_eq_nil_iff, not_or]
          exact ⟨by omega, hne⟩
        · rwa [List.head?_take, if_neg (by omega)]
      have hinside : digits.drop point ≠ [] := by
        rw [ne_eq, List.drop_eq_nil_iff]
        omega
      exact ⟨_, _, rfl, hwhole, hfront, isFractionPart_decimals hinside hback, by simp⟩
    case isFalse =>
      split
      case isTrue =>
        have hall : ∀ c ∈ List.replicate (-(digits.length + exponent : Int)).toNat '0' ++ digits,
            c.isDigit := List.forall_mem_append.2 ⟨hzeros, hdigits⟩
        have hdecimals := isFractionPart_decimals (by simp [hne]) hall
        exact ⟨['0'], _, rfl, rfl, by simp, hdecimals, by simp⟩
      case isFalse =>
        obtain ⟨d, ds, rfl⟩ := List.exists_cons_of_ne_nil hne
        rw [List.forall_mem_cons] at hdigits
        have hfirst : ∀ c ∈ [d], c.isDigit := by simpa using hdigits.1
        have hwhole : isWhole [d] := isWhole_of_head? (by simp) hfirst hzero
        cases ds with
        | nil => exact ⟨[d], _, rfl, hwhole, hfirst, isExponent_toString _, by simp⟩
        | cons e ds =>
            have hdecimals := isFractionPart_digits (by simp) hdigits.2
              (isExponent_toString ((d :: e :: ds).length + exponent - 1)) (by simp)
            exact ⟨[d], _, rfl, hwhole, hfirst, hdecimals, by simp⟩

theorem isNumber_text (d : Number.Decimal) : isNumber d.text.toList := by
  obtain ⟨negative, n, exponent⟩ := d
  obtain ⟨whole, fraction, htext, hsize⟩ : ∃ whole fraction,
      (if n = 0 then ['0', '.', '0'] else Number.Decimal.layout (Nat.toDigits 10 n) exponent) =
        whole ++ fraction ∧ IsSize whole fraction := by
    by_cases hn : n = 0
    · rw [if_pos hn]
      exact ⟨['0'], ['.', '0'], rfl, rfl, by simp, rfl, by simp⟩
    · rw [if_neg hn]
      exact exists_layout_eq Nat.toDigits_ne_nil (fun _ => isDigit_of_mem_toDigits)
        (head?_toDigits_ne_zero hn) exponent
  rw [Number.Decimal.text, String.toList_ofList, htext]
  cases negative with
  | false => exact hsize.isNumber.1
  | true => exact hsize.isNumber.2

/-! ## Characters of numbers -/

/-- The characters that numbers are made of. -/
def IsNumberChar (c : Char) : Prop :=
  c.isDigit ∨ c ∈ ['-', '+', '.', 'e', 'E']

/-- Digits at the front of a text are characters of numbers. -/
theorem isNumberChar_of_dropWhile {cs : List Char}
    (h : ∀ c ∈ cs.dropWhile Char.isDigit, IsNumberChar c) : ∀ c ∈ cs, IsNumberChar c := by
  rw [← List.takeWhile_append_dropWhile (p := Char.isDigit) (l := cs), List.forall_mem_append]
  exact ⟨fun c hc => Or.inl (List.mem_takeWhile_imp hc), h⟩

theorem isNumberChar_of_isExponent {cs : List Char} (h : isExponent cs) :
    ∀ c ∈ cs, IsNumberChar c := by
  have hall {digits : List Char} (hdigits : digits.all Char.isDigit) :
      ∀ c ∈ digits, IsNumberChar c :=
    fun c hc => Or.inl (List.all_eq_true.1 hdigits c hc)
  cases cs with
  | nil => exact nofun
  | cons mark rest =>
      simp only [isExponent, Bool.and_eq_true, Bool.or_eq_true, beq_iff_eq] at h
      obtain ⟨⟨hmark, -⟩, hdigits⟩ := h
      refine List.forall_mem_cons.2 ⟨?_, ?_⟩
      · rcases hmark with rfl | rfl <;> exact Or.inr (by decide)
      · split at hdigits
        case h_1 => exact List.forall_mem_cons.2 ⟨Or.inr (by decide), hall hdigits⟩
        case h_2 => exact List.forall_mem_cons.2 ⟨Or.inr (by decide), hall hdigits⟩
        case h_3 => exact hall hdigits

theorem isNumberChar_of_isFractionPart {cs : List Char} (h : isFractionPart cs) :
    ∀ c ∈ cs, IsNumberChar c := by
  unfold isFractionPart at h
  split at h
  case h_1 rest =>
    rw [Bool.and_eq_true] at h
    have hrest := isNumberChar_of_dropWhile (isNumberChar_of_isExponent h.2)
    exact List.forall_mem_cons.2 ⟨Or.inr (by decide), hrest⟩
  case h_2 => exact isNumberChar_of_isExponent h

theorem isNumberChar_of_isNumber {cs : List Char} (h : isNumber cs) :
    ∀ c ∈ cs, IsNumberChar c := by
  simp only [isNumber, Bool.and_eq_true] at h
  have hsize := isNumberChar_of_dropWhile (isNumberChar_of_isFractionPart h.2)
  split at hsize
  case h_1 rest => exact List.forall_mem_cons.2 ⟨Or.inr (by decide), hsize⟩
  case h_2 => exact hsize

end Folio.Json
