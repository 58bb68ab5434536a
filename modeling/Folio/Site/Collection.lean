import Folio.Assemble
import Folio.Site.Loader

/-!
# Collections

A collection is a loader and the assembler that compiles its documents.  All documents are compiled
as one batch, which fails when one of them does.
-/

namespace Folio.Site

open Frontmatter

/-- A compiled document and its id. -/
structure Entry (φ : Type) where
  id : String
  document : Compiled φ

/-- A loader and the assembler of its documents. -/
structure Collection where
  loader : Loader
  assembler : Assembler

namespace Collection

variable {φ : Type} [Schema φ]

/-- Compiles one document. -/
def compile (c : Collection) (id : String) (source : Source) : Except LoadError (Compiled φ) :=
  match c.assembler.assemble source.text source.path with
  | .ok document => .ok document
  | .error error => .error (.compile id error)

/-- Compiles the document with an id on a disk, if there is one. -/
def findOn (c : Collection) (disk : Disk) (id : String) :
    Except LoadError (Option (Compiled φ)) :=
  match c.loader.fetch disk id with
  | .ok source => (c.compile id source).map some
  | .error error => if error.isMissingDocument then .ok none else .error error

/-- Compiles the document with an id, if there is one. -/
def find (c : Collection) (tree : FileTree) (id : String) :
    Except LoadError (Option (Compiled φ)) :=
  c.findOn tree.disk id

/-- Compiles a document that has been loaded. -/
def compileEntry (c : Collection) (loaded : String × Source) : Except LoadError (Entry φ) :=
  (c.compile loaded.1 loaded.2).map fun document => { id := loaded.1, document }

/-- Compiles all documents in the order of their ids.  Nothing is compiled before everything is
loaded. -/
def compileAll (c : Collection) (tree : FileTree) : Except LoadError (List (Entry φ)) := do
  let sources ← c.loader.loadAll tree
  sources.mapM c.compileEntry

end Collection

/-- Whether a post comes before another: it is newer, or of the same day with an id that is not
greater. -/
def isListedBefore (a b : Entry Post) : Bool :=
  b.document.record.date.isBefore a.document.record.date ||
    (a.document.record.date == b.document.record.date && a.id ≤ b.id)

/-- Posts from the newest to the oldest. -/
def newestFirst (entries : List (Entry Post)) : List (Entry Post) :=
  entries.mergeSort isListedBefore

end Folio.Site
