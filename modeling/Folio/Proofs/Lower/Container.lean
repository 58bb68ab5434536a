import Folio.Lower.Width
import Folio.Proofs.Fence.Written

/-!
# Written containers

Block quotes and list items as an author writes them: what opens one on its first line, and what
stands in its place on the other lines.  The width that is measured on the source where a container
starts is the length of both.
-/

namespace Folio.Lower

open Folio.Text Folio.Markdown Folio.Fence

/-! ## Offsets of plain texts -/

/-- A text of one-byte characters within a line. -/
def Inline (cs : List Char) : Prop :=
  ∀ c ∈ cs, c.utf8Size = 1 ∧ c ≠ '\n'

theorem Inline.append {cs ds : List Char} (hc : Inline cs) (hd : Inline ds) : Inline (cs ++ ds) :=
  List.forall_mem_append.2 ⟨hc, hd⟩

theorem Inline.newline_notMem {cs : List Char} (h : Inline cs) : '\n' ∉ cs :=
  fun hm => (h _ hm).2 rfl

theorem Inline.byteSize_eq {cs : List Char} (h : Inline cs) : byteSize cs = cs.length := by
  induction cs with
  | nil => rfl
  | cons c cs ih =>
      rw [Inline, List.forall_mem_cons] at h
      rw [byteSize, h.1.1, ih h.2, List.length_cons, Nat.add_comm]

theorem inline_of_isDigit {c : Char} (h : c.isDigit) : c.utf8Size = 1 ∧ c ≠ '\n' := by
  constructor
  · simp only [Char.isDigit, Bool.and_eq_true, decide_eq_true_eq] at h
    rw [Char.utf8Size, if_pos]
    exact UInt32.le_trans h.2 (by decide)
  · rintro rfl
    cases h

/-- The column of a place in a line is the length of what stands before it in the line. -/
theorem columnOf_append {before opened : List Char} (hbefore : WholeLines before)
    (hopened : Inline opened) (rest : List Char) :
    columnOf (before ++ opened ++ rest) (byteSize (before ++ opened)) = opened.length := by
  simp only [columnOf, take?_append, splitLastLine_append hbefore hopened.newline_notMem,
    hopened.byteSize_eq]

/-! ## Containers -/

/-- The marker of a list item, with the gap up to its content. -/
structure ItemMarker where
  digits : List Char := []
  sign : Char
  gap : Nat := 1
  bullet_or_ordered : digits = [] ∧ sign ∈ ['-', '+', '*'] ∨
    digits ≠ [] ∧ (∀ c ∈ digits, c.isDigit) ∧ sign ∈ ['.', ')']
  one_le_gap : 1 ≤ gap
  gap_le_four : gap ≤ 4

/-- A block that holds other blocks and has a prefix on each of its lines. -/
inductive Container where
  | quote
  | item (marker : ItemMarker)

namespace ItemMarker

variable (marker : ItemMarker)

/-- What opens the item. -/
def opening : List Char :=
  marker.digits ++ marker.sign :: List.replicate marker.gap ' '

/-- The columns up to the content of the item. -/
def width : Nat :=
  marker.digits.length + 1 + marker.gap

/-- No item is without width. -/
theorem exists_width : ∃ n, marker.width = n + 1 :=
  ⟨marker.digits.length + marker.gap, by rw [width]; omega⟩

theorem isDigit_of_mem_digits : ∀ c ∈ marker.digits, c.isDigit := by
  rcases marker.bullet_or_ordered with ⟨hnil, -⟩ | ⟨-, hdigits, -⟩
  · rw [hnil]
    intro c hc
    cases hc
  · exact hdigits

/-- What is true of all signs is true of that of the item. -/
theorem sign_of {P : Char → Prop} (h : P '-' ∧ P '+' ∧ P '*' ∧ P '.' ∧ P ')') : P marker.sign := by
  obtain ⟨hdash, hplus, hstar, hpoint, hparen⟩ := h
  have hbullet : ∀ c ∈ ['-', '+', '*'], P c := by
    simp [hdash, hplus, hstar]
  have hordered : ∀ c ∈ ['.', ')'], P c := by
    simp [hpoint, hparen]
  rcases marker.bullet_or_ordered with ⟨-, hsign⟩ | ⟨-, -, hsign⟩
  · exact hbullet _ hsign
  · exact hordered _ hsign

/-- The first character of the opening is a digit or the sign. -/
theorem exists_opening : ∃ c rest, marker.opening = c :: rest ∧ (c.isDigit ∨ c = marker.sign) := by
  cases hdigits : marker.digits with
  | nil => exact ⟨marker.sign, _, by rw [opening, hdigits]; rfl, Or.inr rfl⟩
  | cons c digits =>
      refine ⟨c, _, by rw [opening, hdigits]; rfl, Or.inl (marker.isDigit_of_mem_digits c ?_)⟩
      rw [hdigits]
      exact List.mem_cons_self

theorem inline_opening : Inline marker.opening := by
  rw [opening, Inline, List.forall_mem_append, List.forall_mem_cons]
  refine ⟨fun c hc => inline_of_isDigit (marker.isDigit_of_mem_digits c hc),
    marker.sign_of (P := fun c => c.utf8Size = 1 ∧ c ≠ '\n') (by decide), fun c hc => ?_⟩
  rw [List.eq_of_mem_replicate hc]
  decide

theorem length_opening : marker.opening.length = marker.width := by
  rw [opening, width, List.length_append, List.length_cons, List.length_replicate]
  omega

/-- The opening is not indented. -/
theorem leadingIndents_opening (rest : List Char) :
    leadingIndents (marker.opening ++ rest) = 0 := by
  obtain ⟨c, opening, hopening, hc⟩ := marker.exists_opening
  have hindent : isIndent c = false := by
    rcases hc with hc | rfl
    · exact isIndent_of_isDigit hc
    · exact marker.sign_of (P := fun c => isIndent c = false) (by decide)
  rw [hopening, leadingIndents, List.cons_append, List.takeWhile_cons_of_neg (by simp [hindent])]
  rfl

theorem takeWhile_isDigit_opening (rest : List Char) :
    (marker.opening ++ rest).takeWhile Char.isDigit = marker.digits := by
  rw [opening, List.append_assoc]
  refine takeWhile_front marker.isDigit_of_mem_digits ?_
  rintro c ⟨⟩
  exact marker.sign_of (P := fun c => c.isDigit = false) (by decide)

/-- What follows the sign. -/
theorem drop?_opening (rest : List Char) :
    drop? (marker.opening ++ rest) (marker.digits.length + 1) =
      some (List.replicate marker.gap ' ' ++ rest) := by
  have hfront : Inline (marker.digits ++ [marker.sign]) := by
    rw [Inline, List.forall_mem_append, List.forall_mem_singleton]
    exact ⟨fun c hc => inline_of_isDigit (marker.isDigit_of_mem_digits c hc),
      marker.sign_of (P := fun c => c.utf8Size = 1 ∧ c ≠ '\n') (by decide)⟩
  have hsize : byteSize (marker.digits ++ [marker.sign]) = marker.digits.length + 1 := by
    rw [hfront.byteSize_eq, List.length_append, List.length_singleton]
  have hsplit : marker.opening ++ rest =
      (marker.digits ++ [marker.sign]) ++ (List.replicate marker.gap ' ' ++ rest) := by
    simp [opening]
  rw [hsplit, ← hsize, drop?_append]

end ItemMarker

namespace Container

/-- What opens a container on its first line. -/
def opening : Container → List Char
  | quote => ['>', ' ']
  | item marker => marker.opening

/-- What stands in place of the opening on the other lines. -/
def continuation : Container → List Char
  | quote => ['>', ' ']
  | item marker => List.replicate marker.width ' '

theorem inline_opening (container : Container) : Inline container.opening := by
  cases container with
  | quote =>
      rw [opening, Inline, List.forall_mem_cons, List.forall_mem_singleton]
      decide
  | item marker => exact marker.inline_opening

/-- The first character of an opening is visible. -/
theorem exists_opening (container : Container) :
    ∃ c rest, container.opening = c :: rest ∧ c ≠ ' ' ∧ c ≠ '\n' ∧ c ≠ '\r' := by
  cases container with
  | quote => exact ⟨'>', [' '], rfl, by decide⟩
  | item marker =>
      obtain ⟨c, rest, hrest, hc⟩ := marker.exists_opening
      refine ⟨c, rest, hrest, ?_⟩
      rcases hc with hc | rfl
      · refine ⟨?_, ?_, ?_⟩ <;>
          rintro rfl <;> cases hc
      · exact marker.sign_of (P := fun c => c ≠ ' ' ∧ c ≠ '\n' ∧ c ≠ '\r') (by decide)

theorem isFront_continuation (container : Container) : IsFront container.continuation := by
  cases container with
  | quote =>
      rw [continuation, IsFront, List.forall_mem_cons, List.forall_mem_singleton]
      decide
  | item marker =>
      intro c hc
      rw [List.eq_of_mem_replicate hc]
      rfl

theorem length_continuation (container : Container) :
    container.continuation.length = container.opening.length := by
  cases container with
  | quote => rfl
  | item marker => rw [continuation, opening, List.length_replicate, marker.length_opening]

end Container

/-! ## Widths -/

section

variable {before opened : List Char} (hbefore : WholeLines before) (hopened : Inline opened)
  {span : Span} (hspan : span.start.offset = byteSize (before ++ opened))
include hbefore hopened hspan

/-- The width of a quote that starts behind other openings. -/
theorem quoteWidth?_opening (rest : List Char) :
    quoteWidth? (before ++ opened ++ (Container.quote.opening ++ rest)) (some span) =
      some (opened.length + Container.quote.opening.length) := by
  simp only [quoteWidth?, Option.bind_eq_bind, Option.bind_some, hspan, drop?_append,
    columnOf_append hbefore hopened]
  rfl

/-- The width of an item that starts behind other openings and has content on its first line. -/
theorem itemWidth?_opening (marker : ItemMarker) {c : Char} (hspace : c ≠ ' ') (hline : c ≠ '\n')
    (hreturn : c ≠ '\r') (rest : List Char) :
    itemWidth? (before ++ opened ++ (marker.opening ++ c :: rest)) (some span) =
      some (opened.length + marker.opening.length) := by
  obtain ⟨tail, htail⟩ := head?_lines marker.inline_opening.newline_notMem hline hreturn rest
  have hspaces : (List.replicate marker.gap ' ' ++ c :: tail).takeWhile (· == ' ') =
      List.replicate marker.gap ' ' :=
    takeWhile_front (fun d hd => by simp [List.eq_of_mem_replicate hd]) (by simpa using hspace)
  have hsize : byteSize (List.replicate marker.gap ' ' ++ c :: tail) =
      marker.gap + (c.utf8Size + byteSize tail) := by
    have hgap : Inline (List.replicate marker.gap ' ') := fun d hd => by
      rw [List.eq_of_mem_replicate hd]
      decide
    rw [byteSize_append, hgap.byteSize_eq, List.length_replicate]
    rfl
  have hpos := c.utf8Size_pos
  have hone := marker.one_le_gap
  have hfour := marker.gap_le_four
  have hlength := marker.length_opening
  rw [ItemMarker.width] at hlength
  simp only [itemWidth?, Option.bind_eq_bind, Option.bind_some, hspan, drop?_append, htail,
    columnOf_append hbefore hopened, marker.leadingIndents_opening, List.drop_zero,
    marker.takeWhile_isDigit_opening, marker.drop?_opening, hspaces, List.length_replicate, hsize]
  -- The gap has one to four spaces and content after it, so it counts in full.
  rw [if_neg]
  · refine congrArg some ?_
    rw [hlength]
    omega
  · simp
    omega

end

end Folio.Lower
