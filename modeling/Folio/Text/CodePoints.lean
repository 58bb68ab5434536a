/-!
# Sets of characters as ranges of code points

Character properties are kept as tables of inclusive ranges.  Each property has a module of its
own; this one holds what they share: membership, and character mappings given by runs.
-/

namespace Folio.Text

/-- A set of characters, as inclusive ranges of code points. -/
abbrev CodePoints := List (Nat × Nat)

/-- Whether the character lies in one of the ranges. -/
def CodePoints.has (table : CodePoints) (c : Char) : Bool :=
  table.any fun range => range.1 ≤ c.toNat && c.toNat ≤ range.2

/-- A run of characters mapped one to one: every `step`-th code point from `first` to `last`,
sent to the code point equally far from `target`. -/
structure MappedRun where
  first : Nat
  last : Nat
  step : Nat
  target : Nat

/-- The image of a character under a run, if the run holds it. -/
def MappedRun.find? (run : MappedRun) (c : Char) : Option Char :=
  let n := c.toNat
  if run.first ≤ n && n ≤ run.last && (n - run.first) % run.step == 0 then
    some (Char.ofNat (run.target + (n - run.first)))
  else
    none

/-- A character mapping that may expand: runs mapped one to one, and characters whose image is a
list.  Everything else is left as it is. -/
structure CharMap where
  runs : List MappedRun
  expanded : List (Nat × List Nat)

/-- The image of one character. -/
def CharMap.get (table : CharMap) (c : Char) : List Char :=
  match table.expanded.find? (·.1 == c.toNat) with
  | some (_, image) => image.map Char.ofNat
  | none =>
    match table.runs.findSome? (·.find? c) with
    | some image => [image]
    | none => [c]

end Folio.Text
