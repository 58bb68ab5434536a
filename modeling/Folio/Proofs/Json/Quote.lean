import Folio.Json.Basic
import Folio.Json.Source

/-!
# Quoted strings

A string is read again from its characters between quotes: each character is escaped in one of three
ways, and every escape stands for the character it was made from.
-/

namespace Folio.Json

/-! ## Escapes -/

/-- Four hexadecimal digits of a control character. -/
theorem exists_hexFour_eq {n : Nat} (hn : n < 0x20) : ∃ a b c d, hexFour n = [a, b, c, d] ∧
    unit? a b c d = some n ∧ '"' ∉ hexFour n ∧ '\\' ∉ hexFour n := by
  -- There are few control characters, and all of them have two zeros in front.
  have hall : ∀ n < 0x20, hexFour n = ['0', '0', (hexFour n).getD 2 '0', (hexFour n).getD 3 '0'] ∧
      unit? '0' '0' ((hexFour n).getD 2 '0') ((hexFour n).getD 3 '0') = some n ∧
      '"' ∉ hexFour n ∧ '\\' ∉ hexFour n := by
    decide
  exact ⟨_, _, _, _, hall n hn⟩

/-- A character is escaped by a letter, or by its number, or stands for itself. -/
theorem escape_cases (c : Char) :
    (∃ d, escape c = ['\\', d] ∧ escaped? d = some c ∧ d ≠ 'u') ∨
      (c.toNat < 0x20 ∧ escape c = '\\' :: 'u' :: hexFour c.toNat) ∨
      (0x20 ≤ c.toNat ∧ c ≠ '"' ∧ c ≠ '\\' ∧ escape c = [c]) := by
  unfold escape
  split
  case h_8 hquote hslash _ _ _ _ _ =>
    by_cases hc : c.toNat < 0x20
    · rw [if_pos hc]
      exact Or.inr (Or.inl ⟨hc, rfl⟩)
    · rw [if_neg hc]
      exact Or.inr (Or.inr ⟨by omega, hquote, hslash, rfl⟩)
  all_goals exact Or.inl ⟨_, rfl, rfl, by decide⟩

theorem isWellEscaped_escape_append (c : Char) (cs : List Char) :
    isWellEscaped (escape c ++ cs) = isWellEscaped cs := by
  obtain ⟨d, hd, hescaped, hletter⟩ | ⟨hc, hnumber⟩ | ⟨hc, -, hslash, hself⟩ := escape_cases c
  · rw [hd]
    show isWellEscaped ('\\' :: d :: cs) = _
    rw [isWellEscaped, hescaped]
    · rfl
    · exact fun _ _ _ _ _ hu _ => hletter hu
  · obtain ⟨x, y, z, w, hdigits, hunit, -, -⟩ := exists_hexFour_eq hc
    rw [hnumber, hdigits]
    show isWellEscaped ('\\' :: 'u' :: x :: y :: z :: w :: cs) = _
    rw [isWellEscaped, hunit]
    rfl
  · rw [hself]
    show isWellEscaped (c :: cs) = _
    rw [isWellEscaped]
    · simp [hslash, hc]
    · exact fun _ _ _ _ _ hc _ => hslash hc
    · exact fun _ _ hc _ => hslash hc

theorem unescape?_escape_append (c : Char) (cs : List Char) :
    unescape? (escape c ++ cs) = (unescape? cs).map (c :: ·) := by
  obtain ⟨d, hd, hescaped, hletter⟩ | ⟨hc, hnumber⟩ | ⟨-, -, hslash, hself⟩ := escape_cases c
  · rw [hd]
    show unescape? ('\\' :: d :: cs) = _
    rw [unescape?, hescaped]
    · cases unescape? cs <;> rfl
    · exact fun _ _ _ _ _ hu _ => hletter hu
  · obtain ⟨x, y, z, w, hdigits, hunit, -, -⟩ := exists_hexFour_eq hc
    -- The number of a control character is no surrogate.
    have hhigh : (decide (0xd800 ≤ c.toNat) && decide (c.toNat ≤ 0xdbff)) = false := by
      simp only [Bool.and_eq_false_iff, decide_eq_false_iff_not]
      omega
    have hlow : (decide (0xdc00 ≤ c.toNat) && decide (c.toNat ≤ 0xdfff)) = false := by
      simp only [Bool.and_eq_false_iff, decide_eq_false_iff_not]
      omega
    rw [hnumber, hdigits]
    show unescape? ('\\' :: 'u' :: x :: y :: z :: w :: cs) = _
    rw [unescape?, hunit, Option.bind_eq_bind, Option.bind_some, hhigh, hlow, Char.ofNat_toNat]
    cases unescape? cs <;> rfl
  · rw [hself]
    show unescape? (c :: cs) = _
    rw [unescape?, if_neg hslash]
    · cases unescape? cs <;> rfl
    · exact fun _ _ _ _ _ hc _ => hslash hc
    · exact fun _ _ hc _ => hslash hc

/-! ## Strings -/

/-- The characters of a string between its quotes. -/
def escaped (s : String) : List Char :=
  s.toList.flatMap escape

theorem quote_eq (s : String) : quote s = '"' :: (escaped s ++ ['"']) := rfl

theorem isWellEscaped_escaped (s : String) : isWellEscaped (escaped s) := by
  rw [escaped]
  induction s.toList with
  | nil => rfl
  | cons c cs ih => rw [List.flatMap_cons, isWellEscaped_escape_append, ih]

theorem unescape?_escaped (s : String) : unescape? (escaped s) = some s.toList := by
  rw [escaped]
  induction s.toList with
  | nil => rfl
  | cons c cs ih => rw [List.flatMap_cons, unescape?_escape_append, ih, Option.map_some]

/-! ## Tokens -/

/-- Inside a string all but quotes and backslashes is passed over. -/
theorem tokensFrom_plain {front : List Char} (hquote : '"' ∉ front) (hslash : '\\' ∉ front)
    (read cs : List Char) : tokensFrom (.inString false read) (front ++ cs) =
      tokensFrom (.inString false (front.reverse ++ read)) cs := by
  induction front generalizing read with
  | nil => rfl
  | cons c front ih =>
      rw [List.mem_cons, not_or] at hquote hslash
      have hescape : (c == '\\') = false := beq_eq_false_iff_ne.2 (Ne.symm hslash.1)
      rw [List.cons_append, tokensFrom, if_neg (Ne.symm hquote.1), hescape, ih hquote.2 hslash.2,
        List.reverse_cons, List.append_assoc, List.singleton_append]

/-- A backslash keeps the character after it inside the string. -/
theorem tokensFrom_backslash (d : Char) (read cs : List Char) :
    tokensFrom (.inString false read) ('\\' :: d :: cs) =
      tokensFrom (.inString false (d :: '\\' :: read)) cs := by
  rw [tokensFrom, if_neg (by decide)]
  rfl

theorem tokensFrom_escape_append (c : Char) (read cs : List Char) :
    tokensFrom (.inString false read) (escape c ++ cs) =
      tokensFrom (.inString false ((escape c).reverse ++ read)) cs := by
  obtain ⟨d, hd, -, -⟩ | ⟨hc, hnumber⟩ | ⟨-, hquote, hslash, hself⟩ := escape_cases c
  · rw [hd]
    exact tokensFrom_backslash d read cs
  · obtain ⟨-, -, -, -, -, -, hquote, hslash⟩ := exists_hexFour_eq hc
    rw [hnumber, List.cons_append, List.cons_append, tokensFrom_backslash,
      tokensFrom_plain hquote hslash, List.reverse_cons, List.reverse_cons, List.append_assoc,
      List.append_assoc, List.singleton_append, List.singleton_append]
  · rw [hself]
    exact tokensFrom_plain (by simpa using hquote.symm) (by simpa using hslash.symm) read cs

/-- A quoted string is one token. -/
theorem tokensFrom_quote_append (s : String) (cs : List Char) :
    tokensFrom .between (quote s ++ cs) =
      (tokensFrom .between cs).map (.string (escaped s) :: ·) := by
  have hread : ∀ (front read : List Char),
      tokensFrom (.inString false read) (front.flatMap escape ++ '"' :: cs) =
        tokensFrom (.inString false ((front.flatMap escape).reverse ++ read)) ('"' :: cs) := by
    intro front
    induction front with
    | nil => exact fun _ => rfl
    | cons c front ih =>
        intro read
        rw [List.flatMap_cons, List.append_assoc, tokensFrom_escape_append, ih, List.reverse_append,
          List.append_assoc]
  have hclose : tokensFrom (.inString false (escaped s).reverse) ('"' :: cs) =
      (tokensFrom .between cs).map (.string (escaped s) :: ·) := by
    rw [tokensFrom, if_pos rfl, List.reverse_reverse, if_pos (isWellEscaped_escaped s)]
  have hopen : tokensFrom .between ('"' :: (escaped s ++ '"' :: cs)) =
      (tokensFrom (.inString false []) (escaped s ++ '"' :: cs)).map ([] ++ ·) := rfl
  rw [quote_eq, List.cons_append, List.append_assoc, List.singleton_append, hopen, escaped, hread,
    List.append_nil]
  rw [← escaped, hclose, Option.map_map]
  rfl

end Folio.Json
