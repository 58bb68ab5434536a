import Folio.Json.Source
import Folio.Yaml.Cursor

/-!
# Tags and directives in YAML text

A tag is written with a handle, which a directive may explain, and a suffix in which any byte may be
given by its hexadecimal digits.
-/

namespace Folio.Yaml

/-- A tag as it is written. -/
structure TagText where
  handle : String
  suffix : String
  deriving DecidableEq, Repr, Inhabited

/-- A line in front of a document. -/
inductive Directive where
  | version (major minor : Nat)
  | tag (handle start : String)
  deriving DecidableEq, Repr

/-! ## Parts of tags -/

/-- Reads a handle: a mark of exclamation, or a name between two of them.  Outside a directive a
name without the second mark is read too. -/
def Cursor.handle? (c : Cursor) (inDirective : Bool) : Option (List Char × Cursor) :=
  if c.char? != some '!' then none
  else
    let (name, c) := (c.drop 1).span isWordChar
    if c.char? = some '!' then some ('!' :: name ++ ['!'], c.drop 1)
    else if inDirective && !name.isEmpty then none
    else some ('!' :: name, c)

/-- Whether the character may be in a tag; some are allowed only between angle brackets. -/
def isTagChar (verbatim : Bool) (c : Char) : Bool :=
  isWordChar c || ";/?:@&=+$.!~*'()".toList.contains c || (verbatim && ",[]".toList.contains c)

/-- Reads the bytes of a tag. -/
def tagBytes? (verbatim : Bool) (p : Position) : List Char → Option (List UInt8 × Cursor)
  | '%' :: a :: b :: cs => do
    let high ← Json.hexDigit? a
    let low ← Json.hexDigit? b
    let (bytes, cursor) ← tagBytes? verbatim (p.advance 3) cs
    return (UInt8.ofNat (high * 16 + low) :: bytes, cursor)
  | c :: cs =>
    if c == '%' then none
    else if isTagChar verbatim c then do
      let (bytes, cursor) ← tagBytes? verbatim (p.advance 1) cs
      return (UInt8.ofNat c.toNat :: bytes, cursor)
    else some ([], ⟨c :: cs, p⟩)
  | [] => some ([], ⟨[], p⟩)

/-- Reads the text of a tag. -/
def Cursor.tagChars? (c : Cursor) (verbatim : Bool) : Option (List Char × Cursor) := do
  let (bytes, c) ← tagBytes? verbatim c.place c.rest
  let text ← String.fromUTF8? ⟨bytes.toArray⟩
  return (text.toList, c)

/-! ## Tags -/

/-- Reads the handle and the suffix of a tag.  What looks like a handle without its second mark is
the start of the suffix; a single mark of exclamation is a suffix without a handle. -/
def Cursor.tagText? (c : Cursor) : Option (TagText × Cursor) := do
  if c.charAt? 1 = some '<' then
    let (suffix, c) ← (c.drop 2).tagChars? true
    if suffix.isEmpty || c.char? != some '>' then none
    return (⟨"", String.ofList suffix⟩, c.drop 1)
  else
    let (handle, c) ← c.handle? false
    let (suffix, c) ← c.tagChars? false
    if 1 < handle.length && handle.getLast? = some '!' then
      if suffix.isEmpty then none
      return (⟨String.ofList handle, String.ofList suffix⟩, c)
    else
      let suffix := handle.drop 1 ++ suffix
      return (if suffix.isEmpty then ⟨"", "!"⟩ else ⟨"!", String.ofList suffix⟩, c)

/-- Reads a tag, which a blank or the end of the line has to follow, or a comma inside a flow
collection. -/
def Cursor.tag? (c : Cursor) (flow : Bool) : Option (TagText × Cursor) := do
  let (tag, c) ← c.tagText?
  if isGap c.char? || (flow && c.char? = some ',') then return (tag, c) else none

/-- Reads the name of an anchor or of an alias after its mark. -/
def Cursor.anchor? (c : Cursor) : Option (String × Cursor) :=
  let (name, c) := (c.drop 1).span isWordChar
  let ends := isGap c.char? || (c.char?.map "?:,]\x7d%@\x60".toList.contains).getD false
  if name.isEmpty || !ends then none else some (String.ofList name, c)

/-! ## Directives -/

/-- Reads a number of at most nine digits. -/
def Cursor.versionNumber? (c : Cursor) : Option (Nat × Cursor) :=
  let (digits, c) := c.span Char.isDigit
  if digits.isEmpty || 9 < digits.length then none else some (Text.decimal digits, c)

/-- Reads the two numbers of a version. -/
def Cursor.version? (c : Cursor) : Option (Directive × Cursor) := do
  let (major, c) ← c.versionNumber?
  if c.char? != some '.' then none
  let (minor, c) ← (c.drop 1).versionNumber?
  return (.version major minor, c)

/-- Reads a handle and the text that it stands for. -/
def Cursor.tagDirective? (c : Cursor) : Option (Directive × Cursor) := do
  let (handle, c) ← c.handle? true
  if !(c.char?.map isBlank).getD false then none
  let (start, c) ← c.skipBlanks.tagChars? true
  if start.isEmpty || !isGap c.char? then none
  return (.tag (String.ofList handle) (String.ofList start), c)

/-- Reads the line of a directive. -/
def Cursor.directive? (c : Cursor) : Option (Directive × Cursor) := do
  let (name, c) := (c.drop 1).span isWordChar
  if !isGap c.char? then none
  let c := c.skipBlanks
  let (directive, c) ←
    if name = "YAML".toList then c.version?
    else if name = "TAG".toList then c.tagDirective?
    else none
  return (directive, ← c.finishLine?)

end Folio.Yaml
