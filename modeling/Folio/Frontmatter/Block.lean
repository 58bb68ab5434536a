import Folio.Dict
import Folio.Error
import Folio.Text.Line
import Folio.Text.Offset
import Folio.Yaml.Document

/-!
# Frontmatter blocks

A source may start with a block of YAML between two lines `---`.  `Cut.ofSource` divides a source
into what belongs to the block and the body; nothing is lost or added by the cut.
-/

namespace Folio.Frontmatter

open Folio.Text

/-! ## Cutting a source -/

/-- A line without the carriage returns and line feeds at its end. -/
def lineContent (line : List Char) : List Char :=
  dropEndWhile isReturn line

/-- Whether the line opens or closes a block. -/
def isFence (line : List Char) : Bool :=
  lineContent line == ['-', '-', '-']

/-- Whether the line holds nothing but white space. -/
def isBlankLine (line : List Char) : Bool :=
  (trim line).isEmpty

/-- The byte order mark that may start a source, and the rest. -/
def splitMark : List Char → List Char × List Char
  | '\ufeff' :: rest => (['\ufeff'], rest)
  | cs => ([], cs)

/-- A source cut in two: what stands before the body, and the body. -/
structure Cut where
  head : List Char := []
  /-- The text between the lines of the block, if there is a block. -/
  block : Option (List Char) := none
  body : List Char
  deriving DecidableEq, Repr, Inhabited

namespace Cut

/-- The byte offset where the body starts. -/
def bodyStart (c : Cut) : Nat :=
  byteSize c.head

/-- How many lines there are before the body. -/
def lineOffset (c : Cut) : Nat :=
  c.head.count '\n'

/-- Cuts a source.  A block may come after a byte order mark and blank lines and ends at the first
line that closes it; a source that does not open one is all body. -/
def ofSource (source : List Char) : Except FrontmatterError Cut :=
  let (mark, text) := splitMark source
  let (blank, lines) := (linesWithEnds text).span isBlankLine
  match lines with
  | [] => .ok { body := source }
  | opener :: lines =>
    if isFence opener then
      let (inside, rest) := lines.span fun line => !isFence line
      match rest with
      | [] => .error .unterminated
      | closer :: rest =>
        .ok {
          head := mark ++ blank.flatten ++ opener ++ inside.flatten ++ closer
          block := some (dropEndWhile isReturn inside.flatten)
          body := rest.flatten }
    else
      .ok { body := source }

end Cut

/-! ## Values -/

/-- The mapping that the text of a block writes.  A block that is blank or null is the empty
mapping. -/
def valueOf (block : List Char) : Except FrontmatterError (Dict Json) :=
  if (trim block).isEmpty then .ok ∅
  else
    match (Yaml.Document.ofText? block).bind Yaml.Document.toJson? with
    | none => .error (.unreadable "the block is not one YAML document with a value in JSON")
    | some .null => .ok ∅
    | some (.object entries) => .ok (Dict.ofList entries)
    | some _ => .error .notMapping

/-- A source that is cut, with the mapping of its block; without a block the mapping is empty. -/
structure Extraction where
  value : Dict Json
  cut : Cut

/-- Cuts a source and reads its block. -/
def extract (source : String) : Except FrontmatterError Extraction := do
  let cut ← Cut.ofSource source.toList
  let value ←
    match cut.block with
    | some block => valueOf block
    | none => pure ∅
  return { value, cut }

end Folio.Frontmatter
