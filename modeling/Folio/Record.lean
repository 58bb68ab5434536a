/-!
# Reading records

Options and configurations are read from documents of several formats.  What a format has to offer
for that is a class; what fields there are, and which of them may be left out, is said where a
record is read.
-/

namespace Folio

/-- A document that records can be read from. -/
class Readable (δ : Type) where
  /-- Whether the document stands for no value where a value is optional. -/
  isAbsent : δ → Bool
  flag? : δ → Option Bool
  count? : δ → Option Nat
  text? : δ → Option String
  /-- The name of one of several alternatives. -/
  choice? : δ → Option String
  items? : δ → Option (List δ)
  /-- The values of the named fields, in the order of the names. -/
  fields? : List String → δ → Option (List (Option δ))

namespace Record

variable {δ α : Type}

/-- The greatest count that fits a machine word. -/
def maxCount : Nat := Nat.pow 2 64 - 1

/-- The value of a name among entries, if it has one; two values of one name are an error. -/
def pick? (name : String) (entries : List (String × δ)) : Option (Option δ) :=
  match entries.filter (·.1 == name) with
  | [] => some none
  | [(_, value)] => some (some value)
  | _ => none

/-- The values of names among entries. -/
def pickAll? (names : List String) (entries : List (String × δ)) : Option (List (Option δ)) :=
  names.mapM fun name => pick? name entries

/-- The values of names given by their position alone; too many values are an error. -/
def pickInOrder? (names : List String) (values : List δ) : Option (List (Option δ)) :=
  if values.length ≤ names.length then
    some (values.map some ++ List.replicate (names.length - values.length) none)
  else
    none

/-- A field that has to be there. -/
def required (read? : δ → Option α) (field : Option δ) : Option α :=
  field.bind read?

/-- A field that has a default. -/
def defaulted (default : α) (read? : δ → Option α) : Option δ → Option α
  | some value => read? value
  | none => some default

/-- The value of a field that may be left out or absent. -/
def optional [Readable δ] (read? : δ → Option α) : Option δ → Option (Option α)
  | none => some none
  | some value => if Readable.isAbsent value then some none else (read? value).map some

/-- A list of values. -/
def list [Readable δ] (read? : δ → Option α) (value : δ) : Option (List α) := do
  (← Readable.items? value).mapM read?

/-- One of several named alternatives. -/
def oneOf [Readable δ] (alternatives : List (String × α)) (value : δ) : Option α := do
  let name ← Readable.choice? value
  (alternatives.find? (·.1 == name)).map (·.2)

end Record

end Folio
