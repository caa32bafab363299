/-!
# Sets of characters

`CharSet` is a list of ranges of code points. A normal set lists its ranges in ascending order with
gaps between them; the results of all operations are normal and contain no surrogates.

The operations are those of character classes: union, intersection, difference, symmetric difference
and complement, and `ofRow` to read a row of a table.
-/

namespace FeatureFlags.Unicode

/-- Characters as ranges of code points, both ends included. -/
structure CharSet where
  ranges : List (Nat × Nat)
  deriving DecidableEq, Repr, Inhabited

namespace CharSet

def empty : CharSet := ⟨[]⟩

def all : CharSet := ⟨[(0, 0xD7FF), (0xE000, 0x10FFFF)]⟩

/-- Whether a code point lies in one of the ranges; later ranges lie higher. -/
def memRanges (n : Nat) : List (Nat × Nat) → Bool
  | [] => false
  | (lo, hi) :: rest => if n < lo then false else if n ≤ hi then true else memRanges n rest

def contains (s : CharSet) (c : Char) : Bool := memRanges c.toNat s.ranges

/-- Joins ranges that overlap or touch; the ranges come with ascending lower ends. -/
def joinRanges : List (Nat × Nat) → List (Nat × Nat)
  | [] => []
  | (lo, hi) :: rest => go lo hi rest
where
  go (lo hi : Nat) : List (Nat × Nat) → List (Nat × Nat)
    | [] => [(lo, hi)]
    | (lo', hi') :: rest =>
      if lo' ≤ hi + 1 then go lo (max hi hi') rest else (lo, hi) :: go lo' hi' rest

/-- The parts of a range that hold characters: surrogates are cut out. -/
def scalarParts (r : Nat × Nat) : List (Nat × Nat) :=
  [(r.1, min r.2 0xD7FF), (max r.1 0xE000, r.2)].filter fun p => p.1 ≤ p.2

/-- The characters of the given ranges, which may come in any order and overlap. -/
def ofRanges (rs : List (Nat × Nat)) : CharSet :=
  ⟨joinRanges ((rs.flatMap scalarParts).mergeSort fun a b => a.1 ≤ b.1)⟩

def singleton (c : Char) : CharSet := ⟨[(c.toNat, c.toNat)]⟩

/-- The characters between two, both included. -/
def range (lo hi : Char) : CharSet := ofRanges [(lo.toNat, hi.toNat)]

def union (s t : CharSet) : CharSet := ofRanges (s.ranges ++ t.ranges)

/-- The common part of two ascending lists of ranges. -/
def commonRanges : List (Nat × Nat) → List (Nat × Nat) → List (Nat × Nat)
  | [], _ => []
  | _, [] => []
  | (lo, hi) :: rest, (lo', hi') :: rest' =>
    let part := if max lo lo' ≤ min hi hi' then [(max lo lo', min hi hi')] else []
    if hi < hi' then part ++ commonRanges rest ((lo', hi') :: rest')
    else part ++ commonRanges ((lo, hi) :: rest) rest'
termination_by s t => s.length + t.length

def inter (s t : CharSet) : CharSet := ⟨commonRanges s.ranges t.ranges⟩

/-- The code points from `n` on that an ascending list of ranges leaves out. -/
def gaps (n : Nat) : List (Nat × Nat) → List (Nat × Nat)
  | [] => if n ≤ 0x10FFFF then [(n, 0x10FFFF)] else []
  | (lo, hi) :: rest => (if n < lo then [(n, lo - 1)] else []) ++ gaps (hi + 1) rest

def compl (s : CharSet) : CharSet := inter ⟨gaps 0 s.ranges⟩ all

def diff (s t : CharSet) : CharSet := inter s t.compl

def symmDiff (s t : CharSet) : CharSet := union (s.diff t) (t.diff s)

def isEmpty (s : CharSet) : Bool := s.ranges.isEmpty

def isAscii (s : CharSet) : Bool := s.ranges.all fun r => r.2 < 128

/-- The member of a set that has exactly one. -/
def single? (s : CharSet) : Option Char :=
  match s.ranges with
  | [(lo, hi)] => if lo = hi then some (Char.ofNat lo) else none
  | _ => none

def hexDigit? (c : Char) : Option Nat :=
  if '0' ≤ c ∧ c ≤ '9' then some (c.toNat - '0'.toNat)
  else if 'a' ≤ c ∧ c ≤ 'f' then some (c.toNat - 'a'.toNat + 10)
  else if 'A' ≤ c ∧ c ≤ 'F' then some (c.toNat - 'A'.toNat + 10)
  else none

/-- The ranges of a table row, read from the left: `lo` and `hi` are the ends of the range that is
being read, `begun` says whether it has begun and `second` whether its hyphen has passed. -/
def readRow (begun second : Bool) (lo hi : Nat) : List Char → List (Nat × Nat)
  | [] => if begun then [(lo, if second then hi else lo)] else []
  | c :: rest =>
    match hexDigit? c with
    | some d =>
      if second then readRow true true lo (16 * hi + d) rest
      else readRow true false (16 * lo + d) 0 rest
    | none =>
      if c = '-' then readRow begun true lo 0 rest
      else if begun then (lo, if second then hi else lo) :: readRow false false 0 0 rest
      else readRow false false 0 0 rest

/-- The set that a table row lists. -/
def ofRow (row : String) : CharSet := ⟨readRow false false 0 0 row.toList⟩

/-- The set that a table lists under a name. -/
def ofTable? (table : List (String × String)) (name : String) : Option CharSet :=
  (table.lookup name).map ofRow

/-- The union of all rows of a table whose names are listed. -/
def ofRows (table : List (String × String)) (names : List String) : CharSet :=
  ofRanges (names.flatMap fun name => ((table.lookup name).map fun row => (ofRow row).ranges).getD [])

end CharSet

end FeatureFlags.Unicode
