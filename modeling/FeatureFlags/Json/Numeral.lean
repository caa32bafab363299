import FeatureFlags.Json.Basic

/-!
# Reading numerals

`NumeralParts` is an integer part without leading zeros, an optional fraction and an optional
exponent. An integer that fits in 64 bits is exact. Any other numeral is computed in two rounded
steps (`float?`): its leading digits, as many as fit in 64 bits, become a number, which is
multiplied or divided by a power of ten. The result can differ from the nearest number, and a
numeral beyond the greatest number has no value.
-/

namespace FeatureFlags.Json

/-- The parts of a numeral as they are written. -/
structure NumeralParts where
  negative : Bool
  whole : List Nat
  fraction : List Nat
  exponentNegative : Bool
  exponent : List Nat
  isInteger : Bool
  deriving DecidableEq, Repr, Inhabited

/-- Numbers below this bound fit in 64 bits. -/
def wordBound : Nat := 0x10000000000000000

/-- Appends digits to a number as long as it fits in 64 bits, and gives the digits that were left. -/
def appendDigits (n : Nat) : List Nat → Nat × List Nat
  | [] => (n, [])
  | d :: rest => if wordBound ≤ 10 * n + d then (n, d :: rest) else appendDigits (10 * n + d) rest

def digitsValue (ds : List Nat) : Nat := ds.foldl (fun n d => 10 * n + d) 0

/-- The power of ten as a number, for exponents up to 308. -/
def powerOfTen (n : Nat) : Number := .ofNat (Nat.pow 10 n)

/-- A number times a power of ten; nothing if that is too great. Where the power is too small to be a
number, it is divided off in steps, whose number the first argument bounds. -/
def scale? : Nat → Number → Int → Option Number
  | 0, x, _ => some x
  | fuel + 1, x, e =>
    if e.natAbs ≤ 308 then
      if 0 ≤ e then
        let y := x.mul (powerOfTen e.natAbs)
        if y.isFinite then some y else none
      else some (x.div (powerOfTen e.natAbs))
    else if x.isZero then some x
    else if 0 ≤ e then none
    else scale? fuel (x.div (powerOfTen 308)) (e + 308)

namespace NumeralParts

def writtenExponent (p : NumeralParts) : Int :=
  if p.exponentNegative then -(digitsValue p.exponent : Int) else digitsValue p.exponent

/-- The number of a numeral with a fraction or an exponent, or with too many digits. -/
def float? (p : NumeralParts) : Option Number :=
  let (n, rest) := appendDigits 0 p.whole
  let (m, rest') := appendDigits n p.fraction
  let taken := p.fraction.length - rest'.length
  let e : Int := rest.length - taken + p.writtenExponent
  (scale? 4 (.ofNat m) e).map fun x => if p.negative then x.neg else x

/-- The value of a numeral; nothing if it is too great. -/
def value? (p : NumeralParts) : Option Numeral :=
  let (n, rest) := appendDigits 0 p.whole
  if p.isInteger && rest.isEmpty then
    if !p.negative then some (.natural n)
    else if 0 < n && n ≤ 0x8000000000000000 then some (.negative n)
    else some (.float (Number.ofNat n).neg)
  else p.float?.map .float

end NumeralParts

end FeatureFlags.Json
