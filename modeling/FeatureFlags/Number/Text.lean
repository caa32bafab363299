import FeatureFlags.Number.Shortest

/-!
# Numbers as text

Three notations. `Number.plainText` is positional, without exponent, and without a fraction for an
integer. `Number.valueText`, the notation of the values of flags, is the same except that zero has
no sign. `Number.exactText` always has a fraction or an exponent: it writes a fraction also for
integers, and an exponent for very small and very large numbers.
-/

namespace FeatureFlags

namespace Decimal

/-- The decimal in positional notation; an integer is followed by `tail`. -/
def positional (d : Decimal) (tail : List Char) : List Char :=
  let ds := digitsOf d.digits
  if 0 ≤ d.exponent then
    ds ++ (if d.digits = 0 then [] else List.replicate d.exponent.toNat '0') ++ tail
  else
    let places := (-d.exponent).toNat
    if ds.length ≤ places then '0' :: '.' :: (List.replicate (places - ds.length) '0' ++ ds)
    else ds.take (ds.length - places) ++ '.' :: ds.drop (ds.length - places)

def integerText (n : Int) : List Char :=
  if n < 0 then '-' :: digitsOf n.natAbs else digitsOf n.natAbs

/-- The decimal with one digit before the point and a power of ten after the letter `e`. -/
def scientific (d : Decimal) : List Char :=
  let ds := digitsOf d.digits
  let mantissa :=
    match ds with
    | [] => []
    | [c] => [c]
    | c :: rest => c :: '.' :: rest
  mantissa ++ 'e' :: integerText (d.exponent + ds.length - 1)

end Decimal

namespace Number

def withSign (x : Number) (text : List Char) : List Char := if x.isNegative then '-' :: text else text

/-- The text of infinity and of NaN. -/
def specialText (x : Number) : List Char :=
  if x.isNaN then ['N', 'a', 'N'] else x.withSign ['i', 'n', 'f']

/-- The plain notation: positional, with the fewest digits that read back. -/
def plainText (x : Number) : List Char :=
  if x.isFinite then x.withSign (x.shortest.positional []) else x.specialText

/-- Integers below this bound are written from their integer value: 9 · 10¹⁵. -/
def integerBound : Nat := 9000000000000000

/-- The notation of values: an integer below the bound without sign of zero, all else plain. -/
def valueText (x : Number) : List Char :=
  if x.isFinite && x.isIntegral && x.numerator / x.denominator < integerBound then
    Decimal.integerText x.truncate
  else x.plainText

/-- Whether the exact notation writes an exponent: from 10¹⁶ on, and below 10⁻⁴ except for zero. -/
def isScientific (x : Number) : Bool :=
  10000000000000000 * x.denominator ≤ x.numerator || (!x.isZero && x.numerator * 10000 < x.denominator)

/-- The exact notation. The bound 10⁻⁴ is compared exactly; the number next to it lies above. -/
def exactText (x : Number) : List Char :=
  if x.isFinite then
    x.withSign (if x.isScientific then x.shortest.scientific else x.shortest.positional ['.', '0'])
  else x.specialText

end Number

end FeatureFlags
