import Folio.Json.Source
import Folio.Yaml.Cursor

/-!
# Scalars in YAML text

The four ways to write a scalar: plain, quoted with one or two marks, and as a block of lines.
Line breaks inside a scalar are folded: a single one counts as a space, of several the first is left
out.
-/

namespace Folio.Yaml

/-- How a scalar is written. -/
inductive Style where
  | plain
  | quoted
  | literal
  | folded
  deriving DecidableEq, Repr, Inhabited

/-! ## Gaps between words -/

/-- Blanks and line breaks between two words of a scalar. -/
structure Gap where
  /-- The blanks before the first line break. -/
  blanks : List Char := []
  /-- The first line break, unless it is escaped. -/
  first : List Char := []
  /-- The line breaks after it. -/
  further : List Char := []
  /-- Whether there is a line break. -/
  isBroken : Bool := false
  deriving DecidableEq, Repr, Inhabited

/-- The gap with one more blank; blanks after a line break do not count. -/
def Gap.addBlank (g : Gap) (c : Char) : Gap :=
  if g.isBroken then g else { g with blanks := g.blanks ++ [c] }

/-- The gap with one more line break. -/
def Gap.addBreak (g : Gap) (c : Char) : Gap :=
  if g.isBroken then { g with further := g.further ++ [c] }
  else { g with first := [c], isBroken := true }

/-- Line breaks folded: a single one is a space, of several the first one is left out. -/
def fold (first further : List Char) : List Char :=
  if first = ['\n'] then (if further.isEmpty then [' '] else further) else first ++ further

/-- What a gap adds to the scalar. -/
def Gap.text (g : Gap) : List Char :=
  if g.isBroken then fold g.first g.further else g.blanks

/-- Reads a gap.  On a line after the first, columns before `margin` may not be filled by tabs. -/
def gapFrom (margin : Nat) (g : Gap) (p : Position) : List Char → Option (Gap × Cursor)
  | '\r' :: '\n' :: cs => gapFrom margin (g.addBreak '\n') (p.nextLine 2) cs
  | c :: cs =>
    if isBlank c then
      if g.isBroken && p.column < margin && c == '\t' then none
      else gapFrom margin (g.addBlank c) (p.advance 1) cs
    else if isBreak c then gapFrom margin (g.addBreak (lineEnding c)) (p.nextLine 1) cs
    else some (g, ⟨c :: cs, p⟩)
  | [] => some (g, ⟨[], p⟩)

/-- Reads the gap in front of a cursor. -/
def Cursor.gap? (c : Cursor) (margin : Nat) (g : Gap) : Option (Gap × Cursor) :=
  gapFrom margin g c.place c.rest

/-! ## Plain scalars -/

/-- Whether the character ends or starts a part of a flow collection. -/
def isFlowMark (c : Char) : Bool :=
  c == ',' || c == '[' || c == ']' || c == '\x7b' || c == '\x7d'

/-- The number of characters in front that belong to a word of a plain scalar.  Inside a flow
collection a colon right before a mark is an error. -/
def plainWordLength? (flow : Bool) : List Char → Option Nat
  | [] => some 0
  | c :: cs =>
    let next := cs.head?
    if isGap (some c) then some 0
    else if flow && c == ':' && (next.map fun d => isFlowMark d || d == '?').getD false then none
    else if (c == ':' && isGap next) || (flow && isFlowMark c) then some 0
    else (plainWordLength? flow cs).map (· + 1)

/-- Reads the words of a plain scalar.  The gap before the next word is already read; it counts only
if there is a word.  The answer says whether the scalar is followed by a line break. -/
def plainFrom (flow : Bool) (margin : Nat) (text : List Char) (gap : Gap) :
    Nat → Cursor → Option (List Char × Bool × Cursor)
  | 0, _ => none
  | fuel + 1, cursor =>
    if cursor.atMarker || cursor.char? = some '#' then some (text, gap.isBroken, cursor)
    else do
      let length ← plainWordLength? flow cursor.rest
      let word := cursor.rest.take length
      let cursor := cursor.drop length
      let text := if length = 0 then text else text ++ gap.text ++ word
      let broken := length = 0 && gap.isBroken
      if cursor.rest.isEmpty || !isGap cursor.char? then return (text, broken, cursor)
      let (gap, cursor) ← cursor.gap? margin {}
      if !flow && cursor.column < margin then return (text, gap.isBroken, cursor)
      plainFrom flow margin text gap fuel cursor

/-- Reads a plain scalar whose further lines start at the margin or after it. -/
def Cursor.plain? (c : Cursor) (flow : Bool) (margin : Nat) :
    Option (List Char × Bool × Cursor) :=
  plainFrom flow margin [] {} (c.rest.length + 1) c

/-! ## Quoted scalars -/

/-- The character that a letter stands for after a backslash. -/
def escaped? (c : Char) : Option Char :=
  match c with
  | '0' => some '\x00'
  | 'a' => some '\x07'
  | 'b' => some '\x08'
  | 't' => some '\t'
  | '\t' => some '\t'
  | 'n' => some '\n'
  | 'v' => some '\x0b'
  | 'f' => some '\x0c'
  | 'r' => some '\r'
  | 'e' => some '\x1b'
  | ' ' => some ' '
  | '"' => some '"'
  | '/' => some '/'
  | '\\' => some '\\'
  | 'N' => some '\u0085'
  | '_' => some '\u00a0'
  | 'L' => some '\u2028'
  | 'P' => some '\u2029'
  | _ => none

/-- The number of hexadecimal digits that follow a letter after a backslash. -/
def escapeDigits? (c : Char) : Option Nat :=
  match c with
  | 'x' => some 2
  | 'u' => some 4
  | 'U' => some 8
  | _ => none

/-- The value of hexadecimal digits. -/
def hexValue? (cs : List Char) : Option Nat :=
  cs.foldlM (fun n c => (Json.hexDigit? c).map (n * 16 + ·)) 0

/-- The character with a number; surrogates have none. -/
def charOf? (n : Nat) : Option Char :=
  if n.isValidChar then some (Char.ofNat n) else none

/-- Reads the character that an escape stands for.  The backslash is already read. -/
def Cursor.escape? (c : Cursor) : Option (Char × Cursor) := do
  let letter ← c.char?
  match escapeDigits? letter with
  | some count =>
    let digits := (c.rest.drop 1).take count
    if digits.length = count then
      return (← charOf? (← hexValue? digits), c.drop (1 + count))
    else none
  | none => return (← escaped? letter, c.drop 1)

/-- Reads the rest of a scalar between quotation marks, up to the closing one. -/
def quotedFrom (mark : Char) (text : List Char) : Nat → Cursor → Option (List Char × Cursor)
  | 0, _ => none
  | fuel + 1, cursor => do
    if cursor.atMarker then none
    let c ← cursor.char?
    let next := cursor.drop 1
    if isGap c then
      let (gap, cursor) ← cursor.gap? 0 {}
      quotedFrom mark (text ++ gap.text) fuel cursor
    else if mark == '\'' && c == mark && next.char? = some mark then
      quotedFrom mark (text ++ [mark]) fuel (next.drop 1)
    else if c == mark then return (text, next)
    else if mark == '"' && c == '\\' then
      if (next.char?.map isBreak).getD false then
        let (gap, cursor) ← next.takeBreak.2.gap? 0 { isBroken := true }
        quotedFrom mark (text ++ gap.text) fuel cursor
      else
        let (d, cursor) ← next.escape?
        quotedFrom mark (text ++ [d]) fuel cursor
    else quotedFrom mark (text ++ [c]) fuel next

/-- Reads a scalar between quotation marks. -/
def Cursor.quoted? (c : Cursor) (mark : Char) : Option (List Char × Cursor) :=
  quotedFrom mark [] (c.rest.length + 1) (c.drop 1)

/-! ## Blocks of lines -/

/-- What becomes of the line breaks at the end of a block. -/
inductive Chomping where
  | clip
  | strip
  | keep
  deriving DecidableEq, Repr, Inhabited

/-- Reads the sign of a block's header, if it has one. -/
def Cursor.chomping? (c : Cursor) : Option (Chomping × Cursor) :=
  match c.char? with
  | some '+' => some (.keep, c.drop 1)
  | some '-' => some (.strip, c.drop 1)
  | _ => none

/-- Reads the digit of a block's header; none is zero, and the digit zero is an error. -/
def Cursor.indentation? (c : Cursor) : Option (Nat × Cursor) :=
  match c.char? with
  | some '0' => none
  | some d => if d.isDigit then some (d.toNat - '0'.toNat, c.drop 1) else some (0, c)
  | none => some (0, c)

/-- Reads the header of a block: a sign and a digit in either order. -/
def Cursor.blockHeader? (c : Cursor) : Option (Chomping × Nat × Cursor) := do
  match c.chomping? with
  | some (chomping, c) =>
    let (indent, c) ← c.indentation?
    return (chomping, indent, ← c.finishLine?)
  | none =>
    let (indent, c) ← c.indentation?
    let (chomping, c) := if indent = 0 then (.clip, c) else c.chomping?.getD (.clip, c)
    return (chomping, indent, ← c.finishLine?)

/-- Reads empty lines and the indentation of the line after them.  An indentation of zero is not
known yet; the answer then has the widest one that was seen. -/
def indentFrom (indent widest : Nat) (breaks : List Char) (p : Position) :
    List Char → Option (Nat × List Char × Cursor)
  | '\r' :: '\n' :: cs =>
    indentFrom indent (max widest p.column) (breaks ++ ['\n']) (p.nextLine 2) cs
  | c :: cs =>
    let widest := max widest p.column
    let inside := indent == 0 || p.column < indent
    if inside && c == ' ' then indentFrom indent widest breaks (p.advance 1) cs
    else if inside && c == '\t' then none
    else if isBreak c then indentFrom indent widest (breaks ++ [lineEnding c]) (p.nextLine 1) cs
    else some (widest, breaks, ⟨c :: cs, p⟩)
  | [] => some (max widest p.column, breaks, ⟨[], p⟩)

/-- The lines of a block as they are read. -/
structure BlockText where
  text : List Char := []
  /-- The end of the line before, not yet added. -/
  ending : List Char := []
  /-- The ends of empty lines after it. -/
  breaks : List Char := []
  /-- Whether the line before starts with a blank; such lines are not folded. -/
  isIndented : Bool := false

/-- The block with one more line. -/
def BlockText.addLine (b : BlockText) (style : Style) (line ending breaks : List Char) :
    BlockText :=
  let isIndented := (line.head?.map isBlank).getD false
  let joint :=
    if style = .folded && !b.isIndented && !isIndented then fold b.ending b.breaks
    else b.ending ++ b.breaks
  { text := b.text ++ joint ++ line, ending, breaks, isIndented }

/-- Reads the lines of a block with a known indentation. -/
def blockLinesFrom (style : Style) (indent : Nat) (b : BlockText) :
    Nat → Cursor → Option (BlockText × Cursor)
  | 0, _ => none
  | fuel + 1, cursor =>
    if cursor.column == indent && !cursor.rest.isEmpty then do
      let (line, cursor) := cursor.span fun c => !isBreak c
      let (ending, cursor) := cursor.takeBreak
      let (_, breaks, cursor) ← indentFrom indent 0 [] cursor.place cursor.rest
      blockLinesFrom style indent (b.addLine style line ending breaks) fuel cursor
    else
      some (b, cursor)

/-- Reads a block of lines inside a collection whose column is `parent`.  The mark in front is
already read. -/
def Cursor.block? (c : Cursor) (style : Style) (parent : Int) : Option (List Char × Cursor) := do
  let (chomping, digit, c) ← c.blockHeader?
  let indent := if digit = 0 then 0 else (max parent 0).toNat + digit
  let (widest, breaks, c) ← indentFrom indent 0 [] c.place c.rest
  let indent := if indent = 0 then max widest (max (parent + 1) 1).toNat else indent
  let (b, c) ← blockLinesFrom style indent { breaks } (c.rest.length + 1) c
  let tail := match chomping with
    | .strip => []
    | .clip => b.ending
    | .keep => b.ending ++ b.breaks
  return (b.text ++ tail, c)

end Folio.Yaml
