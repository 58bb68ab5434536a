import Folio.Error
import Folio.Markdown.Assembly
import Folio.Markdown.Block.Document
import Folio.Options

/-!
# Parsing bodies

The markup of a body.  First its lines are sorted into blocks, then the texts of the blocks are
read, and last the tags in both are paired.
-/

namespace Folio.Markdown

open Folio.Text

/-- The context in which the texts of a body are read. -/
def textContext (options : ParseOptions) (source : List Char) (blocks : List Block) :
    TextContext :=
  let context : TextContext :=
    { gfm := options.gfm, jsx := options.jsx, source, definitions := [], footnotes := [] }
  let (definitions, footnotes) := labelsIn context.raw blocks
  { context with definitions, footnotes }

/-- The markup of a body, or the place where a tag is malformed or has no partner. -/
def parseAt (options : ParseOptions) (source : List Char) : Except Point Markup := do
  let lines := layout source
  let blocks ← blocks options.gfm options.jsx lines
  let pieces ← blockPieces (textContext options source blocks) blocks
  let assembled ← assembleAll pieces {}
  let stop := endPoint lines
  if assembled.elements.isEmpty then
    let start := match lines.head? with
      | some line => startOf line.stop line.cells
      | none => Point.first
    return .branch .root (some ⟨start, stop⟩) assembled.parts.reverse
  else
    throw stop

/-- The markup of a body, or the error of a tag that is malformed or has no partner. -/
def parse (options : ParseOptions) (body : String) : Except CompileError Markup :=
  match parseAt options body.toList with
  | .ok root => .ok root
  | .error place =>
    .error (.block (.stated "malformed component tag")
      { line := place.line, column := place.column })

end Folio.Markdown
