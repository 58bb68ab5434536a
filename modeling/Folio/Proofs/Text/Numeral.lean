import Folio.Text.Numeral
import Mathlib.Algebra.Group.Nat.Defs
import Mathlib.Data.List.TakeDrop

/-!
# Written numbers

A number is read again from its digits, with or without zeros in front, from the front of a text
that goes on in another way, or after as many digits as are to be read.
-/

namespace Folio.Text

/-! ## Digits -/

theorem decimalFrom_cons (value : Nat) (c : Char) (cs : List Char) :
    decimalFrom value (c :: cs) = decimalFrom (value * 10 + (c.toNat - '0'.toNat)) cs := by
  rfl

theorem decimalFrom_eq_ofDigitChars (value : Nat) (cs : List Char) :
    decimalFrom value cs = Nat.ofDigitChars 10 cs value := by
  induction cs generalizing value with
  | nil =>
      rw [Nat.ofDigitChars_nil]
      rfl
  | cons c cs ih => rw [decimalFrom_cons, ih, Nat.ofDigitChars_cons, Nat.mul_comm value 10]

theorem decimal_toDigits (n : Nat) : decimal (Nat.toDigits 10 n) = n := by
  rw [decimal, decimalFrom_eq_ofDigitChars, Nat.ofDigitChars_ten_toDigits]

theorem isDigit_of_mem_toDigits {c : Char} {n : Nat} (h : c ∈ Nat.toDigits 10 n) : c.isDigit :=
  Nat.isDigit_of_mem_toDigits (by decide) (by decide) h

/-- A digit is none of the other characters. -/
theorem ne_of_isDigit {c d : Char} (hc : c.isDigit) (hd : d.isDigit = false) : c ≠ d := by
  rintro rfl
  rw [hc] at hd
  cases hd

/-- Only zero starts with a zero. -/
theorem head?_toDigits_ne_zero {n : Nat} (hn : n ≠ 0) : (Nat.toDigits 10 n).head? ≠ some '0' := by
  induction n using Nat.strongRecOn with
  | ind n ih =>
      -- The first digit is that of the number without its last digit.
      by_cases hlt : n < 10
      · rw [Nat.toDigits_of_lt_base hlt]
        simpa using hn
      · have hrest : n / 10 ≠ 0 := by omega
        rw [Nat.toDigits_of_base_le (by decide) (by omega),
          List.head?_append, Option.or_of_isSome (by simp)]
        exact ih (n / 10) (by omega) hrest

/-! ## Zeros in front -/

theorem isDigit_of_mem_padded {c : Char} {width n : Nat} (h : c ∈ padded width n) : c.isDigit := by
  rcases List.mem_append.1 h with h | h
  · rw [List.eq_of_mem_replicate h]
    rfl
  · exact isDigit_of_mem_toDigits h

/-- Zeros in front make no difference. -/
theorem decimal_padded (width n : Nat) : decimal (padded width n) = n := by
  rw [padded, decimal, decimalFrom_eq_ofDigitChars, Nat.ofDigitChars_append,
    Nat.ofDigitChars_replicate_zero, Nat.mul_zero, Nat.ofDigitChars_ten_toDigits]

theorem padded_ne_nil (width n : Nat) : padded width n ≠ [] := by
  rw [padded]
  exact List.append_ne_nil_of_right_ne_nil _ Nat.toDigits_ne_nil

theorem exists_padded_eq_cons (width n : Nat) :
    ∃ c digits, padded width n = c :: digits ∧ c.isDigit := by
  obtain ⟨c, digits, hdigits⟩ := List.exists_cons_of_ne_nil (padded_ne_nil width n)
  exact ⟨c, digits, hdigits, isDigit_of_mem_padded (hdigits ▸ List.mem_cons_self)⟩

/-- A number that fits a width fills it. -/
theorem length_padded {width n : Nat} (hwidth : 0 < width) (hn : n < 10 ^ width) :
    (padded width n).length = width := by
  have hdigits : (Nat.toDigits 10 n).length ≤ width :=
    (Nat.length_toDigits_le_iff (by decide) hwidth).2 hn
  rw [padded, List.length_append, List.length_replicate]
  omega

/-! ## Reading -/

/-- Digits are read up to the limit, or up to what is no digit. -/
theorem takeDigits_append {digits rest : List Char} (hdigits : ∀ c ∈ digits, c.isDigit)
    {limit : Nat} (hlimit : digits.length ≤ limit)
    (hrest : digits.length = limit ∨ ∀ c ∈ rest.head?, c.isDigit = false) :
    takeDigits limit (digits ++ rest) = (digits, rest) := by
  induction digits generalizing limit with
  | nil =>
      cases limit with
      | zero => rfl
      | succ limit =>
          have hstop : ∀ c ∈ rest.head?, c.isDigit = false := by simpa using hrest
          cases rest with
          | nil => rfl
          | cons c rest => simp [takeDigits, hstop c rfl]
  | cons d digits ih =>
      rw [List.forall_mem_cons] at hdigits
      cases limit with
      | zero => simp at hlimit
      | succ limit =>
          rw [List.length_cons] at hlimit hrest
          have htail : takeDigits limit (digits ++ rest) = (digits, rest) :=
            ih hdigits.2 (by omega) (hrest.imp_left (by omega))
          rw [List.cons_append, takeDigits, if_pos hdigits.1, htail]

theorem numeral?_append {digits rest : List Char} (hdigits : ∀ c ∈ digits, c.isDigit)
    {least most : Nat} (hleast : least ≤ digits.length) (hmost : digits.length ≤ most)
    (hrest : digits.length = most ∨ ∀ c ∈ rest.head?, c.isDigit = false) :
    numeral? least most (digits ++ rest) = some (decimal digits, rest) := by
  rw [numeral?, takeDigits_append hdigits hmost hrest]
  exact if_pos hleast

/-- A number that fills a width is read from as many digits. -/
theorem numeral?_padded {least width n : Nat} (hwidth : 0 < width) (hleast : least ≤ width)
    (hn : n < 10 ^ width) (rest : List Char) :
    numeral? least width (padded width n ++ rest) = some (n, rest) := by
  have hlength := length_padded hwidth hn
  rw [numeral?_append (fun _ => isDigit_of_mem_padded) (by omega) (by omega) (Or.inl hlength),
    decimal_padded]

/-- A number before what is no digit is read from all its digits. -/
theorem numeral?_padded_of_head? {width n most : Nat} {rest : List Char}
    (hmost : (padded width n).length ≤ most) (hrest : ∀ c ∈ rest.head?, c.isDigit = false) :
    numeral? 1 most (padded width n ++ rest) = some (n, rest) := by
  have hpos : 0 < (padded width n).length := List.length_pos_iff.2 (padded_ne_nil width n)
  rw [numeral?_append (fun _ => isDigit_of_mem_padded) hpos hmost (Or.inr hrest), decimal_padded]

end Folio.Text
