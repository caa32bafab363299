import FeatureFlags.Value

/-!
# Percentages

`bucket` maps a seed to a number from 0 up to but not including 1, which depends only on the digest
of the seed. `withinPercentages` tests whether the bucket lies in a half-open range, so adjoining
ranges split an audience.
-/

namespace FeatureFlags.Operation

/-- The number of the first four bytes, the lowest byte first. -/
def firstWord (bytes : List UInt8) : Nat :=
  (bytes.take 4).foldr (fun b n => b.toNat + 256 * n) 0

/-- The bucket of a word: its share of the greatest word, with 0 in place of 1. -/
def bucketOfWord (word : Nat) : Number :=
  let share := Number.ofRatio false word 0xFFFFFFFF
  if (Number.ofNat 1).le share then .ofNat 0 else share

variable (digest : String → List UInt8)

def bucket (seed : String) : Number := bucketOfWord (firstWord (digest seed))

def belowPercentage (percentage seed : Value) : Value :=
  match percentage.number?, seed.text? with
  | some p, some s => .boolean ((bucket digest s).lt p)
  | _, _ => .boolean false

/-- Whether a seed lies in a range of percentages, the upper end excluded. -/
def withinPercentages (low high seed : Value) : Value :=
  match low.number?, high.number?, seed.text? with
  | some l, some h, some s => .boolean (l.le (bucket digest s) && (bucket digest s).lt h)
  | _, _, _ => .boolean false

end FeatureFlags.Operation
