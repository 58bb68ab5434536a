import Folio.Text.Blank
import Folio.Text.Lowercase

/-!
# Slugs

The fragment id of a heading, made from its text: lower case, one hyphen for each run of white
space, and nothing outside `[a-z0-9-]`.  Equal texts have equal slugs; there is no counter.
-/

namespace Folio

open Folio.Text

/-- The characters a slug is made of. -/
def isSlugChar (c : Char) : Bool :=
  ('a' ≤ c && c ≤ 'z') || ('0' ≤ c && c ≤ '9') || c == '-'

/-- The slug of a text under the case mapping `lower`.  `afterBlank` holds while a run of white
space is being read that already gave its hyphen. -/
def slugChars (lower : Char → List Char) (afterBlank : Bool) : List Char → List Char
  | [] => []
  | c :: cs =>
    if isBlank c then
      if afterBlank then slugChars lower true cs else '-' :: slugChars lower true cs
    else
      (lower c).filter isSlugChar ++ slugChars lower false cs

/-- The slug of a text. -/
def slug (text : String) : String :=
  String.ofList (slugChars lowercase false text.toList)

/-- Every character of a slug is one of `[a-z0-9-]`. -/
theorem isSlugChar_of_mem_slugChars (lower : Char → List Char) (afterBlank : Bool)
    (cs : List Char) :
    ∀ c ∈ slugChars lower afterBlank cs, isSlugChar c = true := by
  induction cs generalizing afterBlank with
  | nil => simp [slugChars]
  | cons d cs ih =>
    intro c hc
    unfold slugChars at hc
    split at hc
    · split at hc
      · exact ih true c hc
      · rcases List.mem_cons.1 hc with rfl | hc
        · decide
        · exact ih true c hc
    · rcases List.mem_append.1 hc with hc | hc
      · exact (List.mem_filter.1 hc).2
      · exact ih false c hc

end Folio
