import Folio.Date
import Mathlib.Data.Prod.Lex

/-!
# The order of dates

Dates are in the order of their years, dates of one year in that of their months, and dates of one
month in that of their days.  So any two different dates have an earlier one.
-/

namespace Folio.Date

/-- The three numbers of a date, in the order in which they decide. -/
def rank (date : Date) : ℤ ×ₗ ℕ ×ₗ ℕ :=
  toLex (date.year, toLex (date.month, date.day))

theorem rank_injective : Function.Injective rank := by
  rintro ⟨year, month, day, hday⟩ ⟨year', month', day', hday'⟩ h
  have hnumbers : (year, month, day) = (year', month', day') := h
  cases hnumbers
  rfl

theorem isBefore_iff_rank_lt {a b : Date} : a.isBefore b = true ↔ a.rank < b.rank := by
  rw [rank, rank, Prod.Lex.toLex_lt_toLex, Prod.Lex.toLex_lt_toLex]
  simp [isBefore]

end Folio.Date
