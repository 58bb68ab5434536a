import Folio.Markdown.Block.Marks

/-!
# Containers

Block quotes, list items and footnote definitions hold other blocks.  Each starts with a prefix on
its first line and asks for a prefix on every line that continues it.
-/

namespace Folio.Markdown

open Folio.Text

/-- What a list item starts with: a bullet, or a number and the mark after it. -/
structure ItemMark where
  mark : Char
  number : Option Nat
  deriving DecidableEq, Repr, Inhabited

/-- A container that may be open. -/
inductive Container where
  | quote
  /-- A list item; the columns of its prefix, and whether its first line is blank. -/
  | item (mark : ItemMark) (size : Nat) (blankStart : Bool)
  /-- A footnote definition, by its label as it is written. -/
  | footnote (label : List Cell)
  deriving Repr

/-- A container that starts on a line, and what follows its prefix. -/
structure Opening where
  container : Container
  rest : List Cell

/-! ## Quotes -/

/-- What follows the prefix of a quote: the mark, and at most one space. -/
def afterQuoteMark? (cells : List Cell) : Option (List Cell) :=
  match skipGaps cells with
  | [] => none
  | c :: rest => if c.char == '>' then some (skipGapsUpTo 1 rest) else none

/-! ## List items -/

/-- The mark of a list item at the front of a line, and what follows it.  Inside a paragraph
(`interrupting`) only a bullet or the number one starts an item. -/
def itemMark? (interrupting : Bool) (line : List Cell) : Option (ItemMark × List Cell) :=
  match line with
  | [] => none
  | c :: rest =>
    if c.char == '+' || ((c.char == '*' || c.char == '-') && !isRule line) then
      some (⟨c.char, none⟩, rest)
    else
      let digits := line.takeWhile (·.char.isDigit)
      let number := Nat.ofDigitChars 10 (digits.map (·.char)) 0
      match line.drop digits.length with
      | d :: rest =>
        if 1 ≤ digits.length && digits.length ≤ 9 && (d.char == '.' || d.char == ')') &&
            (!interrupting || (digits.length == 1 && c.char == '1')) then
          some (⟨d.char, some number⟩, rest)
        else
          none
      | [] => none

/-- The list item that a line starts.  Between its mark and its content are one to four spaces;
after more than that the content starts one space after the mark. -/
def itemOpening? (interrupting : Bool) (cells : List Cell) : Option Opening := do
  let (mark, rest) ← itemMark? interrupting (skipGaps cells)
  let prefixBefore (rest : List Cell) : Nat :=
    runSize (cells.take (cells.length - rest.length)) rest
  if isBlankCells rest then
    if interrupting then none
    else some ⟨.item mark (prefixBefore rest + 1) true, rest⟩
  else
    let gaps := (rest.takeWhile Cell.isGap).length
    if gaps = 0 then none
    else
      let rest := rest.drop (if gaps ≤ 4 then gaps else 1)
      some ⟨.item mark (prefixBefore rest) false, rest⟩

/-! ## Footnote definitions -/

/-- The characters of a footnote's label up to its closing bracket, and what follows that.  The
label has no blanks and no opening bracket unless it is escaped; `limit` is what it may still
hold. -/
def footnoteLabel? : (limit : Nat) → List Cell → Option (List Cell × List Cell)
  | _, [] => none
  | 0, c :: rest => if c.char == ']' then some ([], rest) else none
  | limit + 1, c :: rest =>
    if c.char == ']' then some ([], rest)
    else if c.isGap || c.char == '[' then none
    else
      match rest with
      | d :: rest' =>
        if c.char == '\\' && (d.char == '[' || d.char == '\\' || d.char == ']') then
          (footnoteLabel? (limit - 1) rest').map fun (label, rest) => (c :: d :: label, rest)
        else
          (footnoteLabel? limit rest).map fun (label, rest) => (c :: label, rest)
      | [] => none

/-- The most characters that a label may have. -/
def maxLabel : Nat := 999

/-- The footnote definition that a line starts. -/
def footnoteOpening? (cells : List Cell) : Option Opening :=
  match skipGaps cells with
  | a :: b :: line =>
    if a.char == '[' && b.char == '^' then
      match footnoteLabel? maxLabel line with
      | some (label, c :: rest) =>
        if c.char == ':' && !label.isEmpty then some ⟨.footnote label, skipGaps rest⟩ else none
      | _ => none
    else
      none
  | _ => none

/-! ## Opening and continuing -/

/-- The container that a line starts. -/
def opening? (gfm interrupting : Bool) (cells : List Cell) : Option Opening :=
  match afterQuoteMark? cells with
  | some rest => some ⟨.quote, rest⟩
  | none =>
    match itemOpening? interrupting cells with
    | some opening => some opening
    | none => if gfm then footnoteOpening? cells else none

/-- The rest of a line after a prefix of exactly so many spaces. -/
def dropIndent? (size : Nat) (cells : List Cell) : Option (List Cell) :=
  if size ≤ (cells.takeWhile Cell.isGap).length then some (cells.drop size) else none

/-- What follows the prefix of an open container on a line that continues it, and the container as
it is after the line.  A blank line continues an item unless it has been blank so far. -/
def Container.continue? (container : Container) (cells : List Cell) :
    Option (Container × List Cell) :=
  match container with
  | .quote => (afterQuoteMark? cells).map fun rest => (.quote, rest)
  | .item mark size blankStart =>
    if isBlankCells cells then
      if blankStart then none else some (container, skipGapsUpTo size cells)
    else
      (dropIndent? size cells).map fun rest => (.item mark size false, rest)
  | .footnote label =>
    if isBlankCells cells then some (.footnote label, skipGapsUpTo tabWidth cells)
    else (dropIndent? tabWidth cells).map fun rest => (.footnote label, rest)

end Folio.Markdown
