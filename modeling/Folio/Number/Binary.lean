import Folio.Number.Decimal

/-!
# Binary fractions

Fractions are kept to the precision of a binary mantissa of 53 bits.  A decimal fraction is rounded
to the nearest such number, and shown by the fewest decimal digits that round back to it.  All
arithmetic is exact.
-/

namespace Folio.Number

/-- The number `mantissa · 2 ^ exponent`. -/
structure Binary where
  mantissa : Nat
  exponent : Int
  deriving DecidableEq, Repr

/-- A positive fraction as a quotient. -/
structure Quotient where
  numerator : Nat
  denominator : Nat

/-- The quotient times a power of a base. -/
def Quotient.scale (v : Quotient) (base : Nat) (exponent : Int) : Quotient :=
  if 0 ≤ exponent then { v with numerator := v.numerator * Nat.pow base exponent.toNat }
  else { v with denominator := v.denominator * Nat.pow base (-exponent).toNat }

/-- The integer nearest to a quotient; a tie goes to the even one. -/
def Quotient.round (v : Quotient) : Nat :=
  let q := v.numerator / v.denominator
  let twice := 2 * (v.numerator % v.denominator)
  if twice < v.denominator || (twice == v.denominator && q % 2 == 0) then q else q + 1

/-- Whether one quotient is less than another. -/
def Quotient.less (v w : Quotient) : Bool :=
  v.numerator * w.denominator < w.numerator * v.denominator

namespace Binary

/-- The number of bits of a mantissa. -/
def precision : Nat := 53

/-- The exponents of the least and of the greatest numbers. -/
def exponentBounds : Int × Int := (-1074, 971)

/-- The number nearest to a positive quotient, unless it is too great.  The exponent is the one
that gives the mantissa its full precision, or the least one. -/
def ofQuotient? (v : Quotient) : Option Binary :=
  let guess : Int := (Nat.log2 v.numerator : Int) - Nat.log2 v.denominator - precision
  let exponent := max guess exponentBounds.1
  let full : Quotient := ⟨Nat.pow 2 precision, 1⟩
  let exponent := if (v.scale 2 (-exponent)).less full then exponent else exponent + 1
  let mantissa := (v.scale 2 (-exponent)).round
  let (mantissa, exponent) :=
    if mantissa = Nat.pow 2 precision then (Nat.pow 2 (precision - 1), exponent + 1)
    else (mantissa, exponent)
  if exponent ≤ exponentBounds.2 then some ⟨mantissa, exponent⟩ else none

/-- The number nearest to a decimal fraction's size, unless it is too great.  Sizes that are
certainly too great or certainly vanish are told by their place value. -/
def ofDecimal? (d : Decimal) : Option Binary :=
  let place : Int := (Nat.toDigits 10 d.digits).length + d.exponent
  if d.digits = 0 || place < -400 then some ⟨0, exponentBounds.1⟩
  else if 400 < place then none
  else ofQuotient? ((⟨d.digits, 1⟩ : Quotient).scale 10 d.exponent)

/-- Whether a quotient rounds to a number, which is not zero. -/
def holds (b : Binary) (v : Quotient) : Bool :=
  let half : Quotient → Quotient := fun w => { w with denominator := w.denominator * 2 }
  let quarter : Nat → Quotient := fun n => half ⟨n, 2⟩
  let isLeast := b.mantissa = Nat.pow 2 (precision - 1) && exponentBounds.1 < b.exponent
  let belowGap := if isLeast then 1 else 2
  let low := (quarter (4 * b.mantissa - belowGap)).scale 2 b.exponent
  let high := (quarter (4 * b.mantissa + 2)).scale 2 b.exponent
  if b.mantissa % 2 == 0 then !v.less low && !high.less v else low.less v && v.less high

/-- The decimal fraction with digits down to the place `10 ^ place` that rounds to a number and is
nearest to it, if one rounds to it. -/
def atPlace? (b : Binary) (place : Int) : Option (Nat × Int) :=
  let value := (⟨b.mantissa, 1⟩ : Quotient).scale 2 b.exponent
  let scaled := value.scale 10 (-place)
  let nearest := scaled.round
  let below := scaled.numerator / scaled.denominator
  let fits (n : Nat) : Bool := n != 0 && b.holds ((⟨n, 1⟩ : Quotient).scale 10 place)
  ([nearest, below, below + 1].find? fits).map fun n => (n, place)

/-- The decimal fraction with the fewest digits that rounds to a number: the first place, from the
left, that has one.  Seventeen digits are always enough. -/
def shortest (b : Binary) : Nat × Int :=
  if b.mantissa = 0 then (0, 0)
  else
    let value := (⟨b.mantissa, 1⟩ : Quotient).scale 2 b.exponent
    let top : Int :=
      if value.numerator < value.denominator then
        1 - ((Nat.toDigits 10 (value.denominator / value.numerator)).length : Int)
      else
        (Nat.toDigits 10 (value.numerator / value.denominator)).length
    ((List.range 19).findSome? fun (k : Nat) => b.atPlace? (top - k)).getD (b.mantissa, 0)

end Binary

/-- The decimal fraction with zeros at its end moved into the exponent; as many as `limit`. -/
def dropZeros : (limit digits : Nat) → Int → Nat × Int
  | 0, digits, exponent => (digits, exponent)
  | limit + 1, digits, exponent =>
    if digits % 10 = 0 && digits != 0 then dropZeros limit (digits / 10) (exponent + 1)
    else (digits, exponent)

/-- A decimal fraction in the precision that is kept, by the fewest digits; none if it is too
great. -/
def Decimal.normal? (d : Decimal) : Option Decimal :=
  (Binary.ofDecimal? d).map fun b =>
    let (digits, exponent) := b.shortest
    let (digits, exponent) := dropZeros 20 digits exponent
    { negative := d.negative, digits, exponent }

end Folio.Number
