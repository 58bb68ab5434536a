/-!
# White space

The characters with the Unicode property `White_Space`, and what is done with them: trimming the
ends of a text and cutting it into words.
-/

namespace Folio.Text

/-- The characters with the property `White_Space`. -/
def isBlank (c : Char) : Bool :=
  c == ' ' || ('\t' ≤ c && c ≤ '\r') || c == '\u0085' || c == '\u00a0' || c == '\u1680' ||
    ('\u2000' ≤ c && c ≤ '\u200a') || c == '\u2028' || c == '\u2029' || c == '\u202f' ||
    c == '\u205f' || c == '\u3000'

/-- A space or a tab: what may indent a line. -/
def isIndent (c : Char) : Bool :=
  c == ' ' || c == '\t'

/-- A carriage return or a line feed: what may end a line. -/
def isReturn (c : Char) : Bool :=
  c == '\n' || c == '\r'

/-- The list without the elements at its end that satisfy `p`. -/
def dropEndWhile {α : Type} (p : α → Bool) : List α → List α
  | [] => []
  | a :: l =>
    match dropEndWhile p l with
    | [] => if p a then [] else [a]
    | b :: r => a :: b :: r

/-- The list without the elements at either end that satisfy `p`. -/
def dropBothWhile {α : Type} (p : α → Bool) (l : List α) : List α :=
  dropEndWhile p (l.dropWhile p)

/-- A text without the white space at either end. -/
def trim (cs : List Char) : List Char :=
  dropBothWhile isBlank cs

/-- A text without the white space at its end. -/
def trimEnd (cs : List Char) : List Char :=
  dropEndWhile isBlank cs

/-- The maximal stretches of a text without white space, from left to right.  `word` holds the
stretch that is being read. -/
def wordsFrom (word : List Char) : List Char → List (List Char)
  | [] => if word.isEmpty then [] else [word]
  | c :: cs =>
    if isBlank c then
      if word.isEmpty then wordsFrom [] cs else word :: wordsFrom [] cs
    else
      wordsFrom (word ++ [c]) cs

/-- The words of a text: its maximal stretches without white space. -/
def words (cs : List Char) : List (List Char) :=
  wordsFrom [] cs

/-- The rest of `cs` after `start`, if `cs` starts with it. -/
def dropStart? (start : List Char) (cs : List Char) : Option (List Char) :=
  if start.isPrefixOf cs then some (cs.drop start.length) else none

end Folio.Text
