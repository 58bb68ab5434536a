import Folio.Error
import Folio.Tree.Transform

/-!
# Raw code

The text of a code block is kept on the block before anything may change it, and published as its
`raw` attribute once nothing changes it any more.
-/

namespace Folio

/-- The head of a code block with its text kept: the interior of its fence as the body writes it, or
the block's own text where there is none. -/
def keepRaw (head : ElementHead) (children : List Node) : ElementHead :=
  if isCodeBlock head children then
    let raw := head.data.fenceSource.getD (content children)
    { head with data := { head.data with rawText := some raw } }
  else
    head

/-- Keeps the text of every code block. -/
def preserveRaw (tree : Tree) : Tree :=
  mapHeads keepRaw tree

/-- The head of a code block with its kept text published. -/
def publishRaw (head : ElementHead) (children : List Node) : Except CompileError ElementHead :=
  if isCodeBlock head children then
    match head.data.rawText with
    | some raw => .ok (head.setAttribute "raw" raw)
    | none => .error (.internal (.rawMissing head.position))
  else
    .ok head

/-- Publishes the kept text of every code block.  Fails on the first block without one. -/
def attachRaw (tree : Tree) : Except CompileError Tree :=
  tryMapHeads publishRaw tree

end Folio
