/-!
# Decimal numerals

Reading runs of ASCII digits and writing numbers with a least width.
-/

namespace Folio.Text

/-- The value of a run of decimal digits, most significant first, after `value` has been read. -/
def decimalFrom (value : Nat) : List Char → Nat
  | [] => value
  | c :: cs => decimalFrom (value * 10 + (c.toNat - '0'.toNat)) cs

/-- The value of a run of decimal digits. -/
def decimal (cs : List Char) : Nat :=
  decimalFrom 0 cs

/-- At most `limit` digits from the front of a text, and the rest. -/
def takeDigits : Nat → List Char → List Char × List Char
  | 0, cs => ([], cs)
  | _ + 1, [] => ([], [])
  | limit + 1, c :: cs =>
    if c.isDigit then
      let (digits, rest) := takeDigits limit cs
      (c :: digits, rest)
    else
      ([], c :: cs)

/-- A number of at least `least` and at most `most` digits at the front of a text. -/
def numeral? (least most : Nat) (cs : List Char) : Option (Nat × List Char) :=
  let (digits, rest) := takeDigits most cs
  if least ≤ digits.length then some (decimal digits, rest) else none

/-- The digits of a number, with zeros in front up to a least width. -/
def padded (width n : Nat) : List Char :=
  let digits := Nat.toDigits 10 n
  List.replicate (width - digits.length) '0' ++ digits

end Folio.Text
