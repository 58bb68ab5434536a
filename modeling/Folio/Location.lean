/-!
# Locations

Where in a source an error is: a line and a column from 1, and the file once it is known.
-/

namespace Folio

/-- A place in a source text. -/
structure Location where
  file : Option String := none
  line : Nat
  column : Nat
  deriving DecidableEq, Repr, Inhabited

/-- The start of a text: where an error is reported that has no place of its own. -/
def Location.start : Location where
  line := 1
  column := 1

/-- A location in a body seen from the whole source, whose body starts `lines` lines further down.
A file that is already known stays. -/
def Location.relocate (location : Location) (file : Option String) (lines : Nat) : Location where
  file := location.file <|> file
  line := location.line + lines
  column := location.column

/-- `file:line:column`, or `line:column` while the file is not known. -/
def Location.text (location : Location) : String :=
  let place := toString location.line ++ ":" ++ toString location.column
  match location.file with
  | some file => file ++ ":" ++ place
  | none => place

end Folio
