import Folio.Text.Blank
import Folio.Text.Line

/-!
# Code fences

A fence is a run of three or more grave accents or tildes at the start of a line, indented by at
most three columns.  Two questions are answered about fences, both by looking at lines alone:

* `Fence.State.advance` says, line by line, which lines of a text belong to a fenced block;
* `Fence.interior?` cuts the interior out of the text of one block, without the prefix that its
  quotes and list items put in front of each line.
-/

namespace Folio.Fence

open Folio.Text

/-- What has been read when a line ends: whether a fence is open, and the fence that opened it. -/
structure State where
  inside : Bool := false
  marker : Option Char := none
  indent : Nat := 0
  length : Nat := 0
  deriving DecidableEq, Repr, Inhabited

/-- A run of three or more equal fence characters, and what follows it on its line. -/
structure Run where
  marker : Char
  length : Nat
  rest : List Char
  deriving DecidableEq, Repr

/-- The characters fences are made of. -/
def isMarker (c : Char) : Bool :=
  c == '\x60' || c == '~'

/-- The fence run a line starts with, if it starts with one. -/
def run? : List Char → Option Run
  | [] => none
  | c :: cs =>
    if isMarker c then
      let length := (cs.takeWhile (· == c)).length + 1
      if 3 ≤ length then some ⟨c, length, cs.dropWhile (· == c)⟩ else none
    else
      none

/-- Whether the run opens a fence: after a run of grave accents the rest of the line holds none. -/
def Run.opens (run : Run) : Bool :=
  run.marker != '\x60' || !run.rest.contains '\x60'

/-- Whether the run closes the open fence: the same character, at least as many of them, and
nothing but white space after. -/
def Run.closes (run : Run) (state : State) : Bool :=
  some run.marker == state.marker && state.length ≤ run.length && (trim run.rest).isEmpty

/-- The columns the leading spaces and tabs of a line reach from a given column, and the line
without them; tabs stop every four columns. -/
def indentFrom (column : Nat) : List Char → Nat × List Char
  | ' ' :: cs => indentFrom (column + 1) cs
  | '\t' :: cs => indentFrom (column + 4 - column % 4) cs
  | cs => (column, cs)

/-- The fence run of a line, with its indent, if the line is indented by at most three columns. -/
def lineRun? (line : List Char) : Option (Nat × Run) :=
  let (columns, rest) := indentFrom 0 line
  if columns ≤ 3 then (run? rest).map fun run => (columns, run) else none

/-- The state after one line. -/
def State.next (state : State) (line : List Char) : State :=
  match lineRun? line with
  | none => state
  | some (columns, run) =>
    if state.inside then
      if run.closes state then {} else state
    else if run.opens then
      { inside := true, marker := some run.marker, indent := columns, length := run.length }
    else
      state

/-- The outcome of reading one line: the next state, and whether the line belongs to a fence, the
lines that open and close it included. -/
structure Outcome where
  next : State
  inFence : Bool
  deriving DecidableEq, Repr

/-- Reads one line. -/
def State.advance (state : State) (line : List Char) : Outcome :=
  let next := state.next line
  { next, inFence := state.inside || next.inside }

/-- Reads lines one after the other, each from the state the one before it left. -/
def State.advanceAll (state : State) : List (List Char) → List Outcome
  | [] => []
  | line :: lines =>
    let outcome := state.advance line
    outcome :: outcome.next.advanceAll lines

/-- A line without what its containers put in front of it: at most `width` characters, and only
spaces, tabs and quote markers. -/
def stripContainer : Nat → List Char → List Char
  | 0, line => line
  | _ + 1, [] => []
  | width + 1, c :: cs =>
    if isIndent c || c == '>' then stripContainer width cs else c :: cs

/-- The interior of one fenced block, or nothing if the block is not closed.

The block reaches from its opening fence to the end of its last line.  Each line after the first
still has the prefix of its containers, of which up to `width` characters are dropped; indentation
of the fence itself and line endings stay. -/
def interior? (block : List Char) (width : Nat) : Option (List Char) := do
  let block := dropEndWhile isReturn block
  let opener := block.takeWhile (· != '\n')
  let _ :: rest := block.dropWhile (· != '\n') | none
  let opening ← run? (opener.dropWhile isIndent)
  let state : State := { inside := true, marker := some opening.marker, length := opening.length }
  let (interior, closer) := splitLastLine rest
  let closing ← run? ((stripContainer width closer).dropWhile isIndent)
  if closing.closes state then
    some ((linesWithEnds interior).flatMap (stripContainer width))
  else
    none

end Folio.Fence
