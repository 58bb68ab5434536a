/-!
# Runs that may fail

When two steps in a row succeed or fail.
-/

namespace Folio

variable {ε α β γ : Type} {x : Except ε α} {y : Except ε β} {f : α → Except ε β}

/-- Two steps succeed if the first does and the second does on its result. -/
theorem bind_eq_ok_iff {b : β} : (x >>= f) = .ok b ↔ ∃ a, x = .ok a ∧ f a = .ok b := by
  constructor
  · intro h
    cases x with
    | error e => cases h
    | ok a => exact ⟨a, rfl, h⟩
  · rintro ⟨a, rfl, h⟩
    exact h

/-- Two steps fail if the first does, or the second does on its result. -/
theorem bind_eq_error_iff {e : ε} :
    (x >>= f) = .error e ↔ x = .error e ∨ ∃ a, x = .ok a ∧ f a = .error e := by
  constructor
  · intro h
    cases x with
    | error e' =>
        cases h
        exact Or.inl rfl
    | ok a => exact Or.inr ⟨a, rfl, h⟩
  · rintro (rfl | ⟨a, rfl, h⟩)
    · rfl
    · exact h

/-- A value made of the result of a step is there if the result is. -/
theorem map_eq_ok_iff {g : α → β} {b : β} : x.map g = .ok b ↔ ∃ a, x = .ok a ∧ b = g a := by
  constructor
  · intro h
    cases x with
    | error e => cases h
    | ok a =>
        cases h
        exact ⟨a, rfl, rfl⟩
  · rintro ⟨a, rfl, rfl⟩
    rfl

theorem map_eq_error_iff {g : α → β} {e : ε} : x.map g = .error e ↔ x = .error e := by
  constructor
  · intro h
    cases x with
    | error e' =>
        cases h
        rfl
    | ok a => cases h
  · rintro rfl
    rfl

/-- A step whose result is put into another value. -/
theorem bind_pure_eq_ok_iff {g : α → β} {b : β} :
    (x >>= fun a => pure (g a)) = .ok b ↔ ∃ a, x = .ok a ∧ b = g a := by
  rw [bind_eq_ok_iff]
  constructor
  · rintro ⟨a, hx, h⟩
    cases h
    exact ⟨a, hx, rfl⟩
  · rintro ⟨a, hx, rfl⟩
    exact ⟨a, hx, rfl⟩

/-- Two independent steps whose results are put together. -/
theorem bind_bind_pure_eq_ok_iff {g : α → β → γ} {c : γ} :
    (x >>= fun a => y >>= fun b => pure (g a b)) = .ok c ↔
      ∃ a b, x = .ok a ∧ y = .ok b ∧ c = g a b := by
  rw [bind_eq_ok_iff]
  constructor
  · rintro ⟨a, hx, h⟩
    obtain ⟨b, hy, h⟩ := bind_pure_eq_ok_iff.1 h
    exact ⟨a, b, hx, hy, h⟩
  · rintro ⟨a, b, hx, hy, h⟩
    exact ⟨a, hx, bind_pure_eq_ok_iff.2 ⟨b, hy, h⟩⟩

/-- Two independent steps fail if one of them does. -/
theorem bind_bind_pure_eq_error {g : α → β → γ} {e : ε}
    (h : (x >>= fun a => y >>= fun b => pure (g a b)) = .error e) :
    x = .error e ∨ y = .error e := by
  rcases bind_eq_error_iff.1 h with hx | ⟨a, -, h⟩
  · exact Or.inl hx
  · rcases bind_eq_error_iff.1 h with hy | ⟨b, -, h⟩
    · exact Or.inr hy
    · cases h

end Folio
