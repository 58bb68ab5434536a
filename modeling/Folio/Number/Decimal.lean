import Folio.Text.Numeral

/-!
# Decimal fractions

A decimal fraction is a run of digits and a power of ten.  It is written with a point or an
exponent, so that it can never be taken for an integer.
-/

namespace Folio.Number

open Folio.Text

/-- The number `±digits · 10 ^ exponent`. -/
structure Decimal where
  negative : Bool := false
  digits : Nat
  exponent : Int := 0
  deriving DecidableEq, Repr, Inhabited

namespace Decimal

/-- The digits with a point after the first, or none after a single digit. -/
def scientific : List Char → List Char
  | [] => []
  | [d] => [d]
  | d :: ds => d :: '.' :: ds

/-- The layout of a run of digits that stands for `digits · 10 ^ exponent`.  Up to sixteen places
before the point and four zeros after it are written out; all else has an exponent. -/
def layout (digits : List Char) (exponent : Int) : List Char :=
  let point : Int := digits.length + exponent
  if 0 ≤ exponent && point ≤ 16 then
    digits ++ List.replicate exponent.toNat '0' ++ ['.', '0']
  else if 0 < point && point ≤ 16 then
    digits.take point.toNat ++ '.' :: digits.drop point.toNat
  else if -5 < point && point ≤ 0 then
    '0' :: '.' :: List.replicate (-point).toNat '0' ++ digits
  else
    scientific digits ++ 'e' :: (toString (point - 1)).toList

/-- The text of a decimal fraction. -/
def text (d : Decimal) : String :=
  let sign := if d.negative then ['-'] else []
  let digits :=
    if d.digits = 0 then ['0', '.', '0'] else layout (Nat.toDigits 10 d.digits) d.exponent
  String.ofList (sign ++ digits)

end Decimal

end Folio.Number
