/-!
# Numbers

`Number` is a binary64 value, held by its 64 bits. Without the sign bit the pattern is a magnitude:
of two finite numbers of one sign the one with the greater magnitude has the greater absolute value,
so comparison is integer comparison of `Number.key`, with NaN treated apart.

A finite magnitude is the rational `numerator / denominator`. Conversely `ofRatio` rounds a rational
to the nearest number, ties to the even significand, with overflow to infinity; multiplication,
division and decimals are this rounding applied to the exact result.
-/

namespace FeatureFlags

/-- A binary64 value. -/
structure Number where
  bits : UInt64
  deriving DecidableEq, Repr, Inhabited

namespace Number

/-- The sign bit: 2⁶³. -/
def signBit : Nat := 0x8000000000000000

/-- The bit that leads the significand of all but the smallest numbers, and is not written: 2⁵². -/
def leadingBit : Nat := 0x10000000000000

/-- The magnitude of infinity; those above it are NaN. -/
def infinityMagnitude : Nat := 0x7FF * leadingBit

/-- The bits without the sign. -/
def magnitude (x : Number) : Nat := x.bits.toNat % signBit

def isNegative (x : Number) : Bool := signBit ≤ x.bits.toNat

/-- Whether the value is NaN. -/
def isNaN (x : Number) : Bool := infinityMagnitude < x.magnitude

/-- Whether the value is a rational. -/
def isFinite (x : Number) : Bool := x.magnitude < infinityMagnitude

/-- Whether the value is zero, of either sign. -/
def isZero (x : Number) : Bool := x.magnitude = 0

def ofMagnitude (negative : Bool) (m : Nat) : Number :=
  ⟨UInt64.ofNat (if negative then signBit + m else m)⟩

/-- The magnitude with its sign, by which numbers are ordered. Both zeros have the key 0. -/
def key (x : Number) : Int := if x.isNegative then -x.magnitude else x.magnitude

/-- Numeric equality: the two zeros are equal, and NaN equals nothing. -/
def eq (x y : Number) : Bool := !x.isNaN && !y.isNaN && x.key == y.key

def lt (x y : Number) : Bool := !x.isNaN && !y.isNaN && x.key < y.key

def le (x y : Number) : Bool := !x.isNaN && !y.isNaN && x.key ≤ y.key

/-- The integer significand of a finite number. -/
def significand (x : Number) : Nat :=
  if x.magnitude / leadingBit = 0 then x.magnitude else x.magnitude % leadingBit + leadingBit

/-- The exponent of a finite number: its absolute value is `significand * 2 ^ (exponent - 1075)`. -/
def exponent (x : Number) : Nat := max (x.magnitude / leadingBit) 1

def numerator (x : Number) : Nat := x.significand * Nat.pow 2 (x.exponent - 1075)

def denominator (x : Number) : Nat := Nat.pow 2 (1075 - x.exponent)

/-- The integer nearest to a quotient, a tie going to the even one. -/
def roundQuotient (num den : Nat) : Nat :=
  let q := num / den
  let r := num % den
  if 2 * r < den then q else if den < 2 * r then q + 1 else q + q % 2

/-- The magnitude nearest to a quotient. The quotient is counted in units of the smallest magnitude, and
`step` is the power of two by which neighbours differ there. -/
def roundMagnitude (num den : Nat) : Nat :=
  let step := (num * Nat.pow 2 1074 / den).log2 - 52
  min infinityMagnitude
    (step * leadingBit + roundQuotient (num * Nat.pow 2 1074) (den * Nat.pow 2 step))

/-- The number nearest to a quotient, with the given sign. -/
def ofRatio (negative : Bool) (num den : Nat) : Number :=
  ofMagnitude negative (roundMagnitude num den)

def ofNat (n : Nat) : Number := ofRatio false n 1

/-- The number nearest to `digits / 10 ^ places`, with the given sign. -/
def ofDecimal (negative : Bool) (digits places : Nat) : Number :=
  ofRatio negative digits (Nat.pow 10 places)

def neg (x : Number) : Number := ofMagnitude (!x.isNegative) x.magnitude

/-- The rounded product of two finite numbers. -/
def mul (x y : Number) : Number :=
  ofRatio (x.isNegative != y.isNegative) (x.numerator * y.numerator) (x.denominator * y.denominator)

/-- The rounded quotient of two finite numbers, the second not zero. -/
def div (x y : Number) : Number :=
  ofRatio (x.isNegative != y.isNegative) (x.numerator * y.denominator) (x.denominator * y.numerator)

def isIntegral (x : Number) : Bool := x.numerator % x.denominator = 0

/-- A finite number without its fraction. -/
def truncate (x : Number) : Int :=
  let n : Int := (x.numerator / x.denominator : Nat)
  if x.isNegative then -n else n

end Number

end FeatureFlags
