import Folio.Text.NamedCharacters
import Folio.Text.Numeral
import Folio.Text.Punctuation

/-!
# Character references and escapes

A character can be written by its name or its number, between an ampersand and a semicolon; and a
backslash before a mark takes the mark's meaning away.
-/

namespace Folio.Markdown

open Folio.Text

/-- A way to write a character other than by itself. -/
inductive ReferenceKind where
  | named
  | decimal
  | hexadecimal
  deriving DecidableEq, Repr

/-- The kind of reference that follows an ampersand, and the number of characters that say so. -/
def ReferenceKind.of (cs : List Char) : ReferenceKind × Nat :=
  match cs with
  | '#' :: c :: _ => if c = 'x' ∨ c = 'X' then (.hexadecimal, 2) else (.decimal, 1)
  | '#' :: _ => (.decimal, 1)
  | _ => (.named, 0)

/-- The characters that a reference of a kind is made of. -/
def ReferenceKind.accepts (kind : ReferenceKind) (c : Char) : Bool :=
  match kind with
  | .named => c.isAlphanum
  | .decimal => c.isDigit
  | .hexadecimal => c.isDigit || ('a' ≤ c && c ≤ 'f') || ('A' ≤ c && c ≤ 'F')

/-- The most characters that a reference of a kind has. -/
def ReferenceKind.limit : ReferenceKind → Nat
  | .named => 31
  | .decimal => 7
  | .hexadecimal => 6

/-- The character of a code point.  What has no place in a text becomes the replacement
character. -/
def characterOfCode (n : Nat) : Char :=
  let isControl := n ≤ 0x08 || n = 0x0b || (0x0e ≤ n && n ≤ 0x1f) || (0x7f ≤ n && n ≤ 0x9f)
  let isUnused := (0xd800 ≤ n && n ≤ 0xdfff) || (0xfdd0 ≤ n && n ≤ 0xfdef) ||
    n % 0x10000 = 0xffff || n % 0x10000 = 0xfffe || 0x10ffff < n
  if isControl || isUnused then '\ufffd' else Char.ofNat n

/-- What the characters of a reference stand for. -/
def ReferenceKind.value? (kind : ReferenceKind) (cs : List Char) : Option (List Char) :=
  match kind with
  | .named => namedCharacters? cs
  | .decimal => some [characterOfCode (Text.decimal cs)]
  | .hexadecimal => some [characterOfCode (hexValue (cs.map Char.toLower))]

/-- A reference after an ampersand: what it stands for, and the number of characters it takes. -/
def reference? (cs : List Char) : Option (List Char × Nat) :=
  let (kind, skip) := ReferenceKind.of cs
  let rest := cs.drop skip
  let body := rest.takeWhile kind.accepts
  if 1 ≤ body.length && body.length ≤ kind.limit && rest[body.length]? == some ';' then
    (kind.value? body).map fun value => (value, skip + body.length + 1)
  else
    none

/-- A text with its character references replaced.  `skip` characters are those of a reference that
has been replaced. -/
def decodeFrom (skip : Nat) : List Char → List Char
  | [] => []
  | c :: cs =>
    match skip with
    | skip + 1 => decodeFrom skip cs
    | 0 =>
      match if c = '&' then reference? cs else none with
      | some (value, length) => value ++ decodeFrom length cs
      | none => c :: decodeFrom 0 cs

/-- A text with its character references replaced. -/
def decodeReferences (cs : List Char) : List Char :=
  decodeFrom 0 cs

/-- A text with its character references replaced and its escapes undone. -/
def unescapeFrom (skip : Nat) : List Char → List Char
  | [] => []
  | c :: cs =>
    match skip with
    | skip + 1 => unescapeFrom skip cs
    | 0 =>
      match c, cs with
      | '\\', d :: _ => if isAsciiMark d then d :: unescapeFrom 1 cs else c :: unescapeFrom 0 cs
      | '&', _ =>
        match reference? cs with
        | some (value, length) => value ++ unescapeFrom length cs
        | none => c :: unescapeFrom 0 cs
      | _, _ => c :: unescapeFrom 0 cs

/-- A text with its character references replaced and its escapes undone. -/
def unescape (cs : List Char) : List Char :=
  unescapeFrom 0 cs

end Folio.Markdown
