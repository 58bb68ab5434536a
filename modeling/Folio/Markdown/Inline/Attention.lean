import Folio.Markdown.Inline.Basic
import Folio.Text.Punctuation

/-!
# Emphasis

Runs of stars, low lines and tildes are paired into emphasis.  Whether a run may open or close
depends on what stands around it.
-/

namespace Folio.Markdown

open Folio.Text

/-- What stands beside a run of marks. -/
inductive Side where
  | blank
  | mark
  | word
  deriving DecidableEq, Repr

/-- What a character beside a run counts as; so does the end of the body. -/
def Side.of : Option Char → Side
  | none => .blank
  | some c => if isBlank c then .blank else if isMark c then .mark else .word

/-- Whether the character makes emphasis. -/
def isAttentionMark (strikes : Bool) (c : Char) : Bool :=
  c == '*' || c == '_' || (strikes && c == '~')

/-- The run of marks that cells of one mark are. -/
def markRun (strikes : Bool) (mark : Char) (cells : List Cell) : MarkRun :=
  let left := cells.head?.bind (·.before)
  let right := cells.getLast?.bind (·.after)
  let before := Side.of left
  let after := Side.of right
  let besides (c : Option Char) : Bool :=
    mark != '~' && (c.map (isAttentionMark strikes)).getD false
  let opens := after == .word || (after == .mark && before != .word) || besides right
  let closes := before == .word || (before == .mark && after != .word) || besides left
  { mark
    cells
    canOpen := if mark == '_' then opens && (before != .word || !closes) else opens
    canClose := if mark == '_' then closes && (after != .word || !opens) else closes }

/-- Whether a run may open what another one closes.  Two runs of which one could do both do not
match when their lengths add up to a multiple of three and are none themselves. -/
def MarkRun.matches (opener closer : MarkRun) : Bool :=
  let m := opener.cells.length
  let n := closer.cells.length
  let odd := (opener.canClose || closer.canOpen) && n % 3 != 0 && (m + n) % 3 == 0
  let unequal := closer.mark == '~' && (m != n || 2 < n)
  opener.canOpen && opener.mark == closer.mark && !odd && !unequal

/-- The nearest run that may open what a run closes: what lies between, in order, and what comes
before, in reverse. -/
def findOpener (closer : MarkRun) (between : List Inline) :
    List Inline → Option (List Inline × MarkRun × List Inline)
  | [] => none
  | .marks run :: before =>
    if run.matches closer then some (between, run, before)
    else findOpener closer (.marks run :: between) before
  | part :: before => findOpener closer (part :: between) before

/-- The emphasis that so many marks of a kind make. -/
def emphasisOf (mark : Char) (size : Nat) : Enclosure :=
  if mark == '~' then .delete else if size = 1 then .emphasis else .strong

/-- Pairs a run with runs before it as long as it closes any; what is left of it is kept.  Each pair
uses up a mark, so as many steps as there are marks are enough. -/
def closeRun (run : MarkRun) (done : List Inline) : (steps : Nat) → List Inline
  | 0 => .marks run :: done
  | steps + 1 =>
    match if run.canClose then findOpener run [] done else none with
    | none => .marks run :: done
    | some (between, opener, before) =>
      let size := if 1 < opener.cells.length && 1 < run.cells.length then 2 else 1
      let left := opener.cells.take (opener.cells.length - size)
      let opening := opener.cells.drop (opener.cells.length - size)
      let closing := run.cells.take size
      let right := run.cells.drop size
      let node := Inline.enclosed (emphasisOf run.mark size) (cellSpan (opening ++ closing))
        (plainMarks between)
      let done :=
        node :: (if left.isEmpty then before else .marks { opener with cells := left } :: before)
      if right.isEmpty then done else closeRun { run with cells := right } done steps

/-- The parts of a text with marks paired into emphasis. -/
def pairMarks (parts : List Inline) : List Inline :=
  let done := parts.foldl (fun done part =>
    match part with
    | .marks run => closeRun run done run.cells.length
    | part => part :: done) []
  plainMarks done.reverse

end Folio.Markdown
