import FeatureFlags.Unicode.CharSet
import FeatureFlags.Unicode.CaseFoldingTable

/-!
# Matching without regard to case

Two characters differ only in case if they fold to the same character. `foldCase` closes a set under
case by adding all case variants of its members.
-/

namespace FeatureFlags.Unicode

/-- A row `c:d,e` of the table of case variants, as numbers. -/
def readVariants (row : String) : Option (Nat × List Nat) :=
  match (CharSet.readRow false false 0 0
      (row.toList.map fun c => if c = ':' ∨ c = ',' then ' ' else c)).map (·.1) with
  | c :: variants => some (c, variants)
  | [] => none

/-- Each character that has case variants, with its variants. -/
def caseVariants : List (Nat × List Nat) :=
  ((caseFoldingTable.splitToList fun c => c = ' ' || c = '\n').filter (· ≠ "")).filterMap readVariants

def hasCaseVariant (c : Char) : Bool := caseVariants.any fun row => row.1 == c.toNat

namespace CharSet

/-- The set with all case variants of its members. -/
def foldCase (s : CharSet) : CharSet :=
  let added := caseVariants.flatMap fun row =>
    if memRanges row.1 s.ranges then row.2.map fun d => (d, d) else []
  if added.isEmpty then s else ofRanges (s.ranges ++ added)

/-- The set with the other case of every letter from `a` to `z` and from `A` to `Z` in it. -/
def foldAsciiCase (s : CharSet) : CharSet :=
  let lower := commonRanges s.ranges [(0x61, 0x7A)]
  let upper := commonRanges s.ranges [(0x41, 0x5A)]
  ofRanges (s.ranges ++ lower.map (fun r => (r.1 - 32, r.2 - 32))
    ++ upper.map fun r => (r.1 + 32, r.2 + 32))

end CharSet

end FeatureFlags.Unicode
