import Folio.Proofs.Text.Line
import Folio.Text.Lowercase

/-!
# Lower case and white space

White space has no case: lower-casing leaves it as it is, and makes none of anything else.  This is
read off the tables: white space is a set of code points, and no run of the mapping starts or ends
up there.
-/

namespace Folio.Text

variable {c d : Char}

/-! ## Mappings that leave a set of characters alone -/

/-- No code point from `low` to `high` is in the set. -/
def CodePoints.Misses (points : CodePoints) (low high : Nat) : Prop :=
  ∀ range ∈ points, high < range.1 ∨ range.2 < low

instance (points : CodePoints) (low high : Nat) : Decidable (points.Misses low high) :=
  inferInstanceAs (Decidable (∀ range ∈ points, high < range.1 ∨ range.2 < low))

theorem CodePoints.Misses.has_eq_false {points : CodePoints} {low high : Nat}
    (h : points.Misses low high) (hlow : low ≤ c.toNat) (hhigh : c.toNat ≤ high) :
    points.has c = false := by
  rw [CodePoints.has, List.any_eq_false]
  intro range hrange
  have hapart := h range hrange
  simp only [Bool.and_eq_true, decide_eq_true_eq]
  omega

/-- A number that is no code point stands for the null character. -/
theorem toNat_ofNat (n : Nat) : (Char.ofNat n).toNat = n ∨ (Char.ofNat n).toNat = 0 := by
  by_cases h : n.isValidChar
  · have hvalid : Char.ofNat n = Char.ofNatAux n h := dif_pos h
    rw [hvalid]
    exact .inl rfl
  · have hnull : Char.ofNat n = '\x00' := dif_neg h
    rw [hnull]
    exact .inr rfl

/-- The image of a character is the character, a list of the table, or the character at its place
in the target of a run. -/
theorem CharMap.get_cases (table : CharMap) (c : Char) :
    table.get c = [c] ∨
    (∃ entry ∈ table.expanded, entry.1 = c.toNat ∧ table.get c = entry.2.map Char.ofNat) ∨
    ∃ run ∈ table.runs, run.first ≤ c.toNat ∧ c.toNat ≤ run.last ∧
      table.get c = [Char.ofNat (run.target + (c.toNat - run.first))] := by
  unfold CharMap.get
  split
  next code image hfind =>
    have hcode : code = c.toNat := by simpa using List.find?_some hfind
    exact .inr (.inl ⟨(code, image), List.mem_of_find?_eq_some hfind, hcode, rfl⟩)
  next =>
    split
    next image hfind =>
      obtain ⟨run, hrun, himage⟩ := List.exists_of_findSome?_eq_some hfind
      simp only [MappedRun.find?, Bool.and_eq_true, decide_eq_true_eq,
        Option.ite_none_right_eq_some, Option.some.injEq] at himage
      obtain ⟨⟨⟨hfirst, hlast⟩, -⟩, rfl⟩ := himage
      exact .inr (.inr ⟨run, hrun, hfirst, hlast, rfl⟩)
    next => exact .inl rfl

/-- The mapping moves no character of the set and sends none there.  The null character is not in
the set, as it is the image where a target is no code point. -/
structure CharMap.Spares (table : CharMap) (points : CodePoints) : Prop where
  null : points.Misses 0 0
  runs : ∀ run ∈ table.runs, points.Misses run.first run.last ∧
    points.Misses run.target (run.target + (run.last - run.first))
  expanded : ∀ entry ∈ table.expanded, points.Misses entry.1 entry.1 ∧ entry.2 ≠ [] ∧
    ∀ n ∈ entry.2, points.Misses n n

namespace CharMap.Spares

variable {table : CharMap} {points : CodePoints}

theorem has_ofNat (h : table.Spares points) {low high n : Nat} (hmiss : points.Misses low high)
    (hlow : low ≤ n) (hhigh : n ≤ high) : points.has (Char.ofNat n) = false := by
  rcases toNat_ofNat n with hn | hn
  · exact hmiss.has_eq_false (by omega) (by omega)
  · exact h.null.has_eq_false (by omega) (by omega)

theorem get_ne_nil (h : table.Spares points) (c : Char) : table.get c ≠ [] := by
  rcases table.get_cases c with heq | ⟨entry, hentry, -, heq⟩ | ⟨run, -, -, -, heq⟩
  · simp [heq]
  · simp [heq, (h.expanded entry hentry).2.1]
  · simp [heq]

/-- The characters of the set are their own images. -/
theorem get_of_has (h : table.Spares points) (hc : points.has c) : table.get c = [c] := by
  rcases table.get_cases c with heq | ⟨entry, hentry, hcode, -⟩ | ⟨run, hrun, hfirst, hlast, -⟩
  · exact heq
  · have hout := (h.expanded entry hentry).1.has_eq_false hcode.le hcode.ge
    rw [hc] at hout
    cases hout
  · have hout := (h.runs run hrun).1.has_eq_false hfirst hlast
    rw [hc] at hout
    cases hout

/-- The images of the other characters are outside the set. -/
theorem has_of_mem_get (h : table.Spares points) (hc : points.has c = false)
    (hd : d ∈ table.get c) : points.has d = false := by
  rcases table.get_cases c with heq | ⟨entry, hentry, -, heq⟩ | ⟨run, hrun, hfirst, hlast, heq⟩
  · rw [heq, List.mem_singleton] at hd
    rwa [hd]
  · rw [heq, List.mem_map] at hd
    obtain ⟨n, hn, rfl⟩ := hd
    exact h.has_ofNat ((h.expanded entry hentry).2.2 n hn) le_rfl le_rfl
  · rw [heq, List.mem_singleton] at hd
    rw [hd]
    exact h.has_ofNat (h.runs run hrun).2 (by omega) (by omega)

end CharMap.Spares

/-! ## White space -/

/-- White space, as code points. -/
def blanks : CodePoints := [
  (0x9, 0xd), (0x20, 0x20), (0x85, 0x85), (0xa0, 0xa0), (0x1680, 0x1680), (0x2000, 0x200a),
  (0x2028, 0x2029), (0x202f, 0x202f), (0x205f, 0x205f), (0x3000, 0x3000)]

theorem has_blanks (c : Char) : blanks.has c = isBlank c := by
  rw [Bool.eq_iff_iff]
  simp only [blanks, CodePoints.has, List.any_cons, List.any_nil, isBlank, Bool.or_eq_true,
    Bool.and_eq_true, decide_eq_true_eq, beq_iff_eq, Char.le_def, UInt32.le_iff_toNat_le,
    Char.ext_iff, ← UInt32.toNat_inj, Char.reduceVal, UInt32.reduceToNat, Char.toNat, Bool.or_false]
  omega

theorem spares_lowercaseMap : lowercaseMap.Spares blanks where
  null := by decide
  runs := by decide +kernel
  expanded := by decide

/-! ## Lower-casing -/

/-- What holds of the first 128 code points holds of every ASCII character. -/
theorem of_ascii (p : Char → Prop) (h : ∀ n < 128, p (Char.ofNat n)) (hc : c.toNat < 128) :
    p c := by
  have hp := h c.toNat hc
  rwa [Char.ofNat_toNat] at hp

theorem toLower_of_isBlank (hascii : c.toNat < 128) (h : isBlank c) : c.toLower = c := by
  revert h
  exact of_ascii (fun c => isBlank c → c.toLower = c) (by decide) hascii

theorem isBlank_toLower (hascii : c.toNat < 128) : isBlank c.toLower = isBlank c :=
  of_ascii (fun c => isBlank c.toLower = isBlank c) (by decide) hascii

/-- What full lower-casing is like in every version of the tables: a character becomes one or more
characters, white space stays, nothing else becomes white space, and ASCII is as usual. -/
structure IsLowering (lower : Char → List Char) : Prop where
  ne_nil : ∀ c, lower c ≠ []
  of_isBlank : ∀ c, isBlank c → lower c = [c]
  isBlank_of_mem : ∀ c, isBlank c = false → ∀ d ∈ lower c, isBlank d = false
  of_ascii : ∀ c, c.toNat < 128 → lower c = [c.toLower]

theorem isLowering_lowercase : IsLowering lowercase where
  ne_nil c := by
    rw [lowercase]
    split
    · exact List.cons_ne_nil _ _
    · exact spares_lowercaseMap.get_ne_nil c
  of_isBlank c hc := by
    rw [lowercase]
    split
    next hascii => rw [toLower_of_isBlank hascii hc]
    next => exact spares_lowercaseMap.get_of_has (by rwa [has_blanks])
  isBlank_of_mem c hc d hd := by
    rw [lowercase] at hd
    split at hd
    next hascii =>
      rw [List.mem_singleton] at hd
      rw [hd, isBlank_toLower hascii, hc]
    next =>
      rw [← has_blanks] at hc ⊢
      exact spares_lowercaseMap.has_of_mem_get hc hd
  of_ascii c hascii := if_pos hascii

end Folio.Text
