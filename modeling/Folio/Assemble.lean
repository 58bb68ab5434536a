import Folio.Frontmatter.Schema
import Folio.Html
import Folio.Pipeline

/-!
# Assembling documents

A document is its source and the path it was read from.  Assembling it reads the record in its
frontmatter, compiles its body and makes its table of contents.
-/

namespace Folio

open Frontmatter

/-- A document that is compiled. -/
structure Compiled (φ : Type) where
  record : φ
  tree : Tree
  /-- The table of contents. -/
  outline : List Heading

/-- What documents are assembled with. -/
structure Assembler where
  pipeline : Pipeline
  registry : Registry
  outlineSource : OutlineSource := .text

namespace Assembler

/-- The assembler with the standard pipeline. -/
def standard (registry : Registry) (options : CompileOptions) : Except CompileError Assembler := do
  let pipeline ← Pipeline.standard registry options
  return { pipeline, registry, outlineSource := options.tocSource }

/-- The table of contents of a body and its tree. -/
def outline (a : Assembler) (body : String) (tree : Tree) : List Heading :=
  match a.outlineSource with
  | .text => textOutline body
  | .tree => treeOutline tree

/-- Assembles a document.  The places of errors in the body are given in the source. -/
def assemble {φ : Type} [Schema φ] (a : Assembler) (source path : String) :
    Except CompileError (Compiled φ) :=
  match (Frontmatter.parse source : Except FrontmatterError (Parsed φ)) with
  | .error cause => .error (.frontmatter cause)
  | .ok parsed =>
    let body := String.ofList parsed.cut.body
    match a.pipeline.compile body with
    | .error error => .error (error.relocate (some path) parsed.cut.lineOffset)
    | .ok tree => .ok { record := parsed.record, tree, outline := a.outline body tree }

/-- The text of a compiled document in HTML. -/
def render {φ : Type} (a : Assembler) (document : Compiled φ) : Except CompileError String :=
  toHtml a.registry document.tree

end Assembler

end Folio
