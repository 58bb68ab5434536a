import Folio.Json.Source
import Folio.Number.Binary
import Folio.Text.Blank

/-!
# Values of plain scalars

What a scalar without quotation marks stands for: null, a truth value, a number, or its own text.
-/

namespace Folio.Yaml

open Folio.Number Folio.Text

/-- The value of a scalar. -/
inductive Value where
  | null
  | bool (value : Bool)
  | integer (value : Int)
  | fraction (value : Decimal)
  /-- An infinity, or what is not a number. -/
  | unbounded
  | text (value : String)
  deriving DecidableEq, Repr, Inhabited

/-! ## Words -/

/-- Whether a text is a word for null. -/
def isNull (text : String) : Bool :=
  ["null", "Null", "NULL", "~"].contains text

/-- The truth value that a text is a word for. -/
def bool? (text : String) : Option Bool :=
  if ["true", "True", "TRUE"].contains text then some true
  else if ["false", "False", "FALSE"].contains text then some false
  else none

/-- Whether a text is a word for an infinity, or for what is not a number. -/
def isUnbounded (text : String) : Bool :=
  [".inf", ".Inf", ".INF", "+.inf", "+.Inf", "+.INF", "-.inf", "-.Inf", "-.INF",
    ".nan", ".NaN", ".NAN"].contains text

/-! ## Numbers -/

/-- The value of digits to a base. -/
def digits? (base : Nat) (cs : List Char) : Option Nat :=
  if cs.isEmpty then none
  else cs.foldlM (fun n c => do
    let digit ← Json.hexDigit? c
    if digit < base then some (n * base + digit) else none) 0

/-- A sign in front of a number, and the number. -/
def signed (cs : List Char) : Option Char × List Char :=
  match cs with
  | '+' :: rest => (some '+', rest)
  | '-' :: rest => (some '-', rest)
  | rest => (none, rest)

/-- Whether a number is digits with a zero in front that does not count. -/
def isZeroPadded (cs : List Char) : Bool :=
  let size := (signed cs).2
  1 < size.length && size.head? == some '0' && size.all Char.isDigit

/-- The size of an integer: decimal digits, or digits to another base after its mark. -/
def natural? (cs : List Char) : Option Nat :=
  match cs with
  | '0' :: 'x' :: rest => digits? 16 rest
  | '0' :: 'o' :: rest => digits? 8 rest
  | '0' :: 'b' :: rest => digits? 2 rest
  | cs => if isZeroPadded cs then none else digits? 10 cs

/-- An integer without a minus sign that is no greater than `limit`. -/
def count? (limit : Nat) (cs : List Char) : Option Nat :=
  match signed cs with
  | (some '-', _) => none
  | (_, size) => (natural? size).filter (· ≤ limit)

/-- An integer.  Of numbers beyond 128 bits only the decimal ones can be read, as fractions. -/
def integer? (cs : List Char) : Option Int :=
  match signed cs with
  | (some '-', size) => ((natural? size).filter (· ≤ Nat.pow 2 127)).map fun n => -(n : Int)
  | _ => (count? (Nat.pow 2 128 - 1) cs).map fun n => (n : Int)

/-- The exponent of a fraction; an empty text is zero. -/
def exponent? (cs : List Char) : Option Int :=
  match cs with
  | [] => some 0
  | c :: rest =>
    if c == 'e' || c == 'E' then
      match signed rest with
      | (some '-', size) => (digits? 10 size).map fun n => -(n : Int)
      | (_, size) => (digits? 10 size).map fun n => (n : Int)
    else none

/-- A decimal fraction, to the precision that is kept, unless it is too great.  There may be a point
anywhere among the digits. -/
def fraction? (cs : List Char) : Option Decimal := do
  let (sign, size) := signed cs
  let whole := size.takeWhile Char.isDigit
  let rest := size.dropWhile Char.isDigit
  let (decimals, rest) := match rest with
    | '.' :: rest => (rest.takeWhile Char.isDigit, rest.dropWhile Char.isDigit)
    | rest => ([], rest)
  let digits ← digits? 10 (whole ++ decimals)
  let exponent ← exponent? rest
  Decimal.normal? { negative := sign == some '-', digits, exponent := exponent - decimals.length }

/-- The value of a text that has to be a fraction. -/
def Value.ofFraction? (text : String) : Option Value :=
  if isUnbounded text then some .unbounded else (fraction? text.toList).map .fraction

/-! ## Plain scalars -/

/-- The value of a plain scalar. -/
def Value.ofPlain (text : String) : Value :=
  if text.isEmpty || isNull text then .null
  else
    match bool? text, integer? text.toList with
    | some value, _ => .bool value
    | none, some value => .integer value
    | none, none =>
      if isZeroPadded text.toList then .text text
      else (Value.ofFraction? text).getD (.text text)

end Folio.Yaml
