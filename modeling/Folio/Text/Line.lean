import Folio.Text.Blank

/-!
# Lines

A line is the text up to and including a line feed, or what remains after the last one.  Nothing
is lost by the cut: the lines of a text concatenate to it.
-/

namespace Folio.Text

/-- The lines of a text, each with the line feed that ends it. -/
def linesWithEnds : List Char → List (List Char)
  | [] => []
  | c :: cs =>
    if c = '\n' then
      ['\n'] :: linesWithEnds cs
    else
      match linesWithEnds cs with
      | [] => [[c]]
      | line :: rest => (c :: line) :: rest

/-- A line without its line feed and without the carriage return before that. -/
def stripEnd (line : List Char) : List Char :=
  match line.reverse with
  | '\n' :: '\r' :: r => r.reverse
  | '\n' :: r => r.reverse
  | _ => line

/-- The lines of a text without their endings. -/
def lines (cs : List Char) : List (List Char) :=
  (linesWithEnds cs).map stripEnd

/-- The text cut after its last line feed. -/
def splitLastLine : List Char → List Char × List Char
  | [] => ([], [])
  | c :: cs =>
    match splitLastLine cs with
    | ([], last) => if c = '\n' then (['\n'], last) else ([], c :: last)
    | (d :: before, last) => (c :: d :: before, last)

theorem flatten_linesWithEnds (cs : List Char) : (linesWithEnds cs).flatten = cs := by
  induction cs with
  | nil => rfl
  | cons c cs ih =>
    unfold linesWithEnds
    split
    · rename_i h
      simp [ih, h]
    · split
      · rename_i h
        simp [h] at ih
        simp [← ih]
      · rename_i h
        rw [h] at ih
        simp at ih
        simp [ih]

theorem append_splitLastLine (cs : List Char) :
    (splitLastLine cs).1 ++ (splitLastLine cs).2 = cs := by
  induction cs with
  | nil => rfl
  | cons c cs ih =>
    unfold splitLastLine
    split
    · rename_i h
      rw [h] at ih
      simp at ih
      split <;> simp_all
    · rename_i h
      rw [h] at ih
      simpa using ih

end Folio.Text
