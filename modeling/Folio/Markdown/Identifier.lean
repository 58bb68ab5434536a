import Folio.Text.Blank
import Folio.Text.Cased
import Folio.Text.Lowercase
import Folio.Text.Uppercase

/-!
# Identifiers of references

A reference finds its definition when their labels are the same up to case and the amount of white
space.
-/

namespace Folio.Markdown

open Folio.Text

/-- Whether a cased letter comes first, characters that case ignores aside. -/
def startsCased (cs : List Char) : Bool :=
  match cs.dropWhile caseIgnorable.has with
  | c :: _ => cased.has c
  | [] => false

/-- A text in lower case.  A capital sigma at the end of a word becomes a final one.  `before` holds
what has been read, in reverse. -/
def lowerFrom (before : List Char) : List Char → List Char
  | [] => []
  | c :: cs =>
    let image :=
      if c = 'Σ' then [if startsCased before && !startsCased cs then 'ς' else 'σ'] else lowercase c
    image ++ lowerFrom (c :: before) cs

/-- A text in lower case. -/
def lowerText (cs : List Char) : List Char :=
  lowerFrom [] cs

/-- A text in upper case. -/
def upperText (cs : List Char) : List Char :=
  cs.flatMap uppercase

/-- The white space that labels may differ in. -/
def isLabelSpace (c : Char) : Bool :=
  isIndent c || isReturn c

/-- The words of a label, in order. -/
def labelWords (word : List Char) : List Char → List (List Char)
  | [] => if word.isEmpty then [] else [word.reverse]
  | c :: cs =>
    if isLabelSpace c then
      if word.isEmpty then labelWords [] cs else word.reverse :: labelWords [] cs
    else
      labelWords (c :: word) cs

/-- The words joined by one space each. -/
def joinWords : List (List Char) → List Char
  | [] => []
  | [word] => word
  | word :: rest => word ++ ' ' :: joinWords rest

/-- A label with its white space made even: one space between words, except that the first two words
are joined when nothing stands before them. -/
def evenLabel (label : List Char) : List Char :=
  let starts := (label.head?.map (!isLabelSpace ·)).getD false
  match labelWords [] label with
  | first :: rest => if starts then first ++ joinWords rest else joinWords (first :: rest)
  | [] => []

/-- What labels of the same reference have in common. -/
def identifierOf (label : List Char) : String :=
  String.ofList (lowerText (upperText (lowerText (evenLabel label))))

end Folio.Markdown
