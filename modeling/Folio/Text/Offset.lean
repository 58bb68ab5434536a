/-!
# Byte offsets

Places in a text are given by byte offsets into its UTF-8 form.  An offset inside a character cuts
nothing.
-/

namespace Folio.Text

/-- The number of bytes of a text in UTF-8. -/
def byteSize : List Char → Nat
  | [] => 0
  | c :: cs => c.utf8Size + byteSize cs

/-- What comes before and after a byte offset, unless the offset lies inside a character or past
the end. -/
def splitAtByte? : Nat → List Char → Option (List Char × List Char)
  | 0, cs => some ([], cs)
  | _ + 1, [] => none
  | n + 1, c :: cs =>
    if c.utf8Size ≤ n + 1 then
      (splitAtByte? (n + 1 - c.utf8Size) cs).map fun (before, after) => (c :: before, after)
    else
      none

/-- The text between two byte offsets. -/
def slice? (cs : List Char) (start stop : Nat) : Option (List Char) := do
  if stop < start then none
  let (_, tail) ← splitAtByte? start cs
  let (between, _) ← splitAtByte? (stop - start) tail
  return between

/-- The text from a byte offset on. -/
def drop? (cs : List Char) (start : Nat) : Option (List Char) :=
  (splitAtByte? start cs).map (·.2)

/-- The text before a byte offset. -/
def take? (cs : List Char) (stop : Nat) : Option (List Char) :=
  (splitAtByte? stop cs).map (·.1)

theorem byteSize_append (cs ds : List Char) : byteSize (cs ++ ds) = byteSize cs + byteSize ds := by
  induction cs with
  | nil => simp [byteSize]
  | cons c cs ih => simp [byteSize, ih, Nat.add_assoc]

/-- A text is cut in two where its front ends. -/
theorem splitAtByte?_byteSize (cs ds : List Char) :
    splitAtByte? (byteSize cs) (cs ++ ds) = some (cs, ds) := by
  induction cs with
  | nil => simp [byteSize, splitAtByte?]
  | cons c cs ih =>
    have hpos := c.utf8Size_pos
    have hsize : byteSize (c :: cs) = c.utf8Size + byteSize cs := rfl
    obtain ⟨n, hn⟩ : ∃ n, byteSize (c :: cs) = n + 1 := ⟨byteSize (c :: cs) - 1, by omega⟩
    have hle : c.utf8Size ≤ n + 1 := by omega
    have hrest : n + 1 - c.utf8Size = byteSize cs := by omega
    rw [hn, List.cons_append, splitAtByte?, if_pos hle, hrest, ih]
    rfl

theorem drop?_append (cs ds : List Char) : drop? (cs ++ ds) (byteSize cs) = some ds := by
  rw [drop?, splitAtByte?_byteSize]
  rfl

theorem take?_append (cs ds : List Char) : take? (cs ++ ds) (byteSize cs) = some cs := by
  rw [take?, splitAtByte?_byteSize]
  rfl

theorem slice?_append (cs ds es : List Char) :
    slice? (cs ++ (ds ++ es)) (byteSize cs) (byteSize cs + byteSize ds) = some ds := by
  rw [slice?, if_neg (by omega), splitAtByte?_byteSize]
  simp only [Option.bind_eq_bind, Option.bind_some, Nat.add_sub_cancel_left, splitAtByte?_byteSize]
  rfl

theorem append_of_splitAtByte? {n : Nat} {cs before after : List Char}
    (h : splitAtByte? n cs = some (before, after)) : before ++ after = cs := by
  fun_induction splitAtByte? n cs generalizing before after with
  | case1 cs => simp_all
  | case2 => simp at h
  | case3 n c cs _ ih =>
    simp only [Option.map_eq_some_iff] at h
    obtain ⟨⟨b, a⟩, hs, he⟩ := h
    simp only [Prod.mk.injEq] at he
    rw [← he.1, ← he.2, List.cons_append, ih hs]
  | case4 => simp at h

end Folio.Text
