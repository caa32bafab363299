import FeatureFlags.Number.Basic

/-!
# The shortest decimal of a number

The decimals that read back as a finite number form an interval, which reaches half way to the two
neighbours and includes its ends if the significand is even. `Decimal.shortest` takes a decimal of
the interval with the fewest digits, of those the nearest, and of two equally near ones the greater.
-/

namespace FeatureFlags

/-- The decimal `digits * 10 ^ exponent`. -/
structure Decimal where
  digits : Nat
  exponent : Int
  deriving DecidableEq, Repr, Inhabited

namespace Decimal

/-- The digits of a natural number in base 10, the highest first. -/
def digitsOf (n : Nat) : List Char := Nat.toDigits 10 n

/-- The same decimal without zeros at the end of its digits. The first argument bounds the steps. -/
def trimZeros : Nat → Decimal → Decimal
  | 0, d => d
  | fuel + 1, d =>
    if d.digits ≠ 0 ∧ d.digits % 10 = 0 then trimZeros fuel ⟨d.digits / 10, d.exponent + 1⟩ else d

end Decimal

namespace Number

/-- The decimals that read back as a number of positive magnitude, as quotients with one denominator. -/
structure Interval where
  low : Nat
  value : Nat
  high : Nat
  denominator : Nat
  closed : Bool

/-- The interval of a finite number that is not zero. Below a power of two the neighbour is nearer. -/
def interval (x : Number) : Interval :=
  let m := x.significand
  let below := if m = leadingBit ∧ 1 < x.exponent then 1 else 2
  let up := Nat.pow 2 (x.exponent - 1075)
  let den := Nat.pow 2 (1075 - x.exponent)
  ⟨(4 * m - below) * up, 4 * m * up, (4 * m + 2) * up, 4 * den, m % 2 = 0⟩

/-- Whether the quotient `num / den` lies in the interval. -/
def Interval.holds (i : Interval) (num den : Nat) : Bool :=
  let n := num * i.denominator
  if i.closed then i.low * den ≤ n && n ≤ i.high * den else i.low * den < n && n < i.high * den

/-- The exponent of the first digit of a positive quotient. -/
def leadingExponent (num den : Nat) : Int :=
  if den ≤ num then (Decimal.digitsOf (num / den)).length - 1
  else -(Decimal.digitsOf ((den - 1) / num)).length

/-- The decimal of the grid `10 ^ e` that is nearest to the value among those of the interval. -/
def Interval.nearest? (i : Interval) (e : Int) : Option Decimal :=
  let up := Nat.pow 10 e.toNat
  let down := Nat.pow 10 (-e).toNat
  let num := i.value * down
  let den := i.denominator * up
  let floor := num / den
  let above := den ≤ 2 * (num % den)
  match i.holds (floor * up) down, i.holds ((floor + 1) * up) down with
  | true, true => some ⟨if above then floor + 1 else floor, e⟩
  | true, false => some ⟨floor, e⟩
  | false, true => some ⟨floor + 1, e⟩
  | false, false => none

/-- The first grid from `e` downwards that meets the interval; the first argument bounds the steps. -/
def Interval.search (i : Interval) : Nat → Int → Decimal
  | 0, e => ⟨i.value * Nat.pow 10 (-e).toNat / (i.denominator * Nat.pow 10 e.toNat), e⟩
  | fuel + 1, e => (i.nearest? e).getD (i.search fuel (e - 1))

/-- The shortest decimal that reads back as the absolute value of a finite number. Seventeen digits are
always enough. -/
def shortest (x : Number) : Decimal :=
  if x.isZero then ⟨0, 0⟩
  else
    let i := x.interval
    (i.search 17 (leadingExponent i.value i.denominator)).trimZeros 17

end Number

end FeatureFlags
