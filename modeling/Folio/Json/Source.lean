import Folio.Record
import Folio.Text.Numeral

/-!
# JSON documents

A JSON document as it is written: numbers and strings are kept as their characters until someone
asks what they mean, so nothing in a part that nobody asks for can be too great or make no sense.

A document is read in two passes.  The first cuts the text into tokens, the second builds the
document from them with a stack of what is still open.
-/

namespace Folio.Json

open Folio.Text

/-- A JSON document with numbers and strings as they are written. -/
inductive Source where
  | null
  | bool (value : Bool)
  | number (written : List Char)
  | string (written : List Char)
  | array (items : List Source)
  | object (entries : List (List Char × Source))
  deriving Repr, Inhabited

/-! ## Strings -/

/-- The value of a hexadecimal digit. -/
def hexDigit? (c : Char) : Option Nat :=
  if c.isDigit then some (c.toNat - '0'.toNat)
  else if 'a' ≤ c && c ≤ 'f' then some (c.toNat - 'a'.toNat + 10)
  else if 'A' ≤ c && c ≤ 'F' then some (c.toNat - 'A'.toNat + 10)
  else none

/-- The value of four hexadecimal digits. -/
def unit? (a b c d : Char) : Option Nat := do
  return (((← hexDigit? a) * 16 + (← hexDigit? b)) * 16 + (← hexDigit? c)) * 16 + (← hexDigit? d)

/-- The character that a letter stands for after a backslash. -/
def escaped? (c : Char) : Option Char :=
  match c with
  | '"' => some '"'
  | '\\' => some '\\'
  | '/' => some '/'
  | 'b' => some '\x08'
  | 'f' => some '\x0c'
  | 'n' => some '\n'
  | 'r' => some '\r'
  | 't' => some '\t'
  | _ => none

/-- Whether each backslash in a written string starts an escape, and no control character is in
it. -/
def isWellEscaped : List Char → Bool
  | [] => true
  | '\\' :: 'u' :: a :: b :: c :: d :: rest => (unit? a b c d).isSome && isWellEscaped rest
  | '\\' :: c :: rest => (escaped? c).isSome && isWellEscaped rest
  | c :: rest => c != '\\' && 0x20 ≤ c.toNat && isWellEscaped rest

/-- The character of two code units, the first of which is a high surrogate. -/
def joined? (high low : Nat) : Option Char :=
  if 0xdc00 ≤ low && low ≤ 0xdfff then
    some (Char.ofNat (0x10000 + (high - 0xd800) * 0x400 + (low - 0xdc00)))
  else
    none

/-- The characters of a written string.  Surrogates have to come in pairs. -/
def unescape? : List Char → Option (List Char)
  | [] => some []
  | '\\' :: 'u' :: a :: b :: c :: d :: rest => do
    let unit ← unit? a b c d
    if 0xd800 ≤ unit && unit ≤ 0xdbff then
      match rest with
      | '\\' :: 'u' :: e :: f :: g :: h :: rest => do
        let joined ← joined? unit (← unit? e f g h)
        return joined :: (← unescape? rest)
      | _ => none
    else if 0xdc00 ≤ unit && unit ≤ 0xdfff then none
    else return Char.ofNat unit :: (← unescape? rest)
  | '\\' :: c :: rest => do
    let c ← escaped? c
    return c :: (← unescape? rest)
  | c :: rest =>
    if c = '\\' then none else do return c :: (← unescape? rest)

/-! ## Numbers -/

/-- Whether a text is a run of digits without a zero in front. -/
def isWhole (cs : List Char) : Bool :=
  match cs with
  | [] => false
  | '0' :: rest => rest.isEmpty
  | cs => cs.all Char.isDigit

/-- Whether a text is an exponent, or nothing. -/
def isExponent (cs : List Char) : Bool :=
  match cs with
  | [] => true
  | c :: rest =>
    let digits := match rest with
      | '+' :: ds => ds
      | '-' :: ds => ds
      | ds => ds
    (c == 'e' || c == 'E') && !digits.isEmpty && digits.all Char.isDigit

/-- Whether a text is decimals and an exponent, either of which may be missing. -/
def isFractionPart (cs : List Char) : Bool :=
  match cs with
  | '.' :: rest =>
    (rest.head?.map Char.isDigit).getD false && isExponent (rest.dropWhile Char.isDigit)
  | cs => isExponent cs

/-- Whether a text is a number. -/
def isNumber (cs : List Char) : Bool :=
  let size := match cs with
    | '-' :: rest => rest
    | rest => rest
  isWhole (size.takeWhile Char.isDigit) && isFractionPart (size.dropWhile Char.isDigit)

/-! ## Tokens -/

/-- The smallest parts of a JSON text. -/
inductive Token where
  | openArray
  | closeArray
  | openObject
  | closeObject
  | comma
  | colon
  | string (written : List Char)
  /-- A word or a number. -/
  | word (written : List Char)
  deriving DecidableEq, Repr

/-- What is being read: nothing, a string with or without a backslash just before, or a word.  What
has been read of it is kept in reverse. -/
inductive Scan where
  | between
  | inString (escaping : Bool) (read : List Char)
  | inWord (read : List Char)
  deriving DecidableEq, Repr

/-- Whether the character is white space between tokens. -/
def isSpace (c : Char) : Bool :=
  c == ' ' || c == '\t' || c == '\n' || c == '\r'

/-- The token of a single character. -/
def mark? (c : Char) : Option Token :=
  match c with
  | '[' => some .openArray
  | ']' => some .closeArray
  | '\x7b' => some .openObject
  | '\x7d' => some .closeObject
  | ',' => some .comma
  | ':' => some .colon
  | _ => none

/-- What a character starts between tokens. -/
def startToken (c : Char) : List Token × Scan :=
  match mark? c with
  | some token => ([token], .between)
  | none =>
    if c = '"' then ([], .inString false [])
    else if isSpace c then ([], .between)
    else ([], .inWord [c])

/-- The tokens of the rest of a text.  A string has to be closed and well escaped. -/
def tokensFrom (scan : Scan) : List Char → Option (List Token)
  | [] =>
    match scan with
    | .between => some []
    | .inString .. => none
    | .inWord read => some [.word read.reverse]
  | c :: cs =>
    match scan with
    | .between =>
      let (tokens, scan) := startToken c
      (tokensFrom scan cs).map (tokens ++ ·)
    | .inString true read => tokensFrom (.inString false (c :: read)) cs
    | .inString false read =>
      if c = '"' then
        if isWellEscaped read.reverse then (tokensFrom .between cs).map (.string read.reverse :: ·)
        else none
      else
        tokensFrom (.inString (c == '\\') (c :: read)) cs
    | .inWord read =>
      if (mark? c).isNone && c != '"' && !isSpace c then tokensFrom (.inWord (c :: read)) cs
      else
        let (tokens, scan) := startToken c
        (tokensFrom scan cs).map ((.word read.reverse :: tokens) ++ ·)

/-- The value that a word is. -/
def wordValue? (written : List Char) : Option Source :=
  if written = "null".toList then some .null
  else if written = "true".toList then some (.bool true)
  else if written = "false".toList then some (.bool false)
  else if isNumber written then some (.number written)
  else none

/-! ## Documents -/

/-- An array or object that is still open; what has been read of it is kept in reverse. -/
inductive Frame where
  | array (items : List Source)
  | object (entries : List (List Char × Source)) (name : List Char)

/-- What may come next. -/
inductive Expect where
  | value
  | firstItem
  | firstName
  | name
  | colon
  /-- A comma, or the end of what is open. -/
  | next
  /-- Nothing: the document is complete. -/
  | done (document : Source)

/-- What is open, from the inside out, and what may come next. -/
structure Reading where
  stack : List Frame
  expect : Expect

/-- Adds a complete value to what is open. -/
def complete (value : Source) : List Frame → Reading
  | [] => ⟨[], .done value⟩
  | .array items :: stack => ⟨.array (value :: items) :: stack, .next⟩
  | .object entries name :: stack => ⟨.object ((name, value) :: entries) name :: stack, .next⟩

/-- Reads the first token of a value. -/
def startValue (stack : List Frame) : Token → Option Reading
  | .openArray => some ⟨.array [] :: stack, .firstItem⟩
  | .openObject => some ⟨.object [] [] :: stack, .firstName⟩
  | .string written => some (complete (.string written) stack)
  | .word written => (wordValue? written).map fun value => complete value stack
  | _ => none

/-- Closes the innermost open array or object. -/
def close : List Frame → Token → Option Reading
  | .array items :: stack, .closeArray => some (complete (.array items.reverse) stack)
  | .object entries _ :: stack, .closeObject => some (complete (.object entries.reverse) stack)
  | _, _ => none

/-- Reads the name of an entry. -/
def startEntry : List Frame → Token → Option Reading
  | .object entries _ :: stack, .string written => some ⟨.object entries written :: stack, .colon⟩
  | _, _ => none

/-- Reads one token. -/
def Reading.step (reading : Reading) (token : Token) : Option Reading :=
  let stack := reading.stack
  match reading.expect with
  | .value => startValue stack token
  | .firstItem => if token = .closeArray then close stack token else startValue stack token
  | .firstName => if token = .closeObject then close stack token else startEntry stack token
  | .name => startEntry stack token
  | .colon => if token = .colon then some ⟨stack, .value⟩ else none
  | .next =>
    if token = .comma then
      match stack with
      | .array _ :: _ => some ⟨stack, .value⟩
      | .object .. :: _ => some ⟨stack, .name⟩
      | [] => none
    else
      close stack token
  | .done _ => none

/-- Reads a JSON text: one document and nothing else. -/
def Source.ofText? (text : String) : Option Source := do
  let tokens ← tokensFrom .between text.toList
  let reading ← tokens.foldlM Reading.step ⟨[], .value⟩
  match reading.expect with
  | .done document => some document
  | _ => none

/-! ## Records -/

/-- A whole number without a sign that fits a machine word. -/
def Source.count? : Source → Option Nat
  | .number written =>
    if isWhole written && decimal written ≤ Record.maxCount then some (decimal written) else none
  | _ => none

/-- The characters of a string. -/
def Source.text? : Source → Option String
  | .string written => (unescape? written).map String.ofList
  | _ => none

/-- The name of an alternative: a string, or the only name of an object, whose value is null. -/
def Source.choice? : Source → Option String
  | .string written => (unescape? written).map String.ofList
  | .object [(name, .null)] => (unescape? name).map String.ofList
  | _ => none

/-- The named fields of an object, or of an array that lists their values in order. -/
def Source.fields? (names : List String) : Source → Option (List (Option Source))
  | .array items => Record.pickInOrder? names items
  | .object entries => do
    let entries ← entries.mapM fun (name, value) => do
      return (String.ofList (← unescape? name), value)
    Record.pickAll? names entries
  | _ => none

instance : Readable Source where
  isAbsent
    | .null => true
    | _ => false
  flag?
    | .bool value => some value
    | _ => none
  count? := Source.count?
  text? := Source.text?
  choice? := Source.choice?
  items?
    | .array items => some items
    | _ => none
  fields? := Source.fields?

end Folio.Json
