import FeatureFlags.Unicode.CharSet
import FeatureFlags.Regex.Extent

/-!
# Byte sequences

`byteSequences` cuts a set of characters into sequences of byte ranges, as an automaton over the
UTF-8 bytes reads them. Read from the left, sequences with a common end share states; from the
right, those with a common beginning do.
-/

namespace FeatureFlags.Regex

open Unicode (CharSet)

/-- Ranges of bytes that stand one after the other. -/
abbrev ByteSequence := List (Nat × Nat)

/-- The greatest code points of one, two, three and four bytes. -/
def lengthBounds : List Nat := [0x7F, 0x7FF, 0xFFFF, 0x10FFFF]

def bytesOf (n : Nat) : List Nat :=
  if n ≤ 0x7F then [n]
  else if n ≤ 0x7FF then [0xC0 + n / 64, 0x80 + n % 64]
  else if n ≤ 0xFFFF then [0xE0 + n / 4096, 0x80 + n / 64 % 64, 0x80 + n % 64]
  else [0xF0 + n / 262144, 0x80 + n / 4096 % 64, 0x80 + n / 64 % 64, 0x80 + n % 64]

/-- Cuts a range where the number of bytes changes. -/
def cutByLength (r : Nat × Nat) : List (Nat × Nat) :=
  (([0, 0x80, 0x800, 0x10000].zip lengthBounds).map fun b => (max r.1 b.1, min r.2 b.2)).filter
    fun p => p.1 ≤ p.2

/-- Cuts a range of code points of one length, whose ends share all but the last `k + 1` bytes, so that each
part is a sequence of byte ranges: behind a byte that differs at both ends all bytes run through all values. -/
def cutByBytes : Nat → Nat × Nat → List (Nat × Nat)
  | 0, r => [r]
  | k + 1, (lo, hi) =>
    let block := Nat.pow 64 (k + 1)
    if lo / block = hi / block then cutByBytes k (lo, hi)
    else
      let first := if lo % block = 0 then lo else (lo / block + 1) * block
      let behind := if (hi + 1) % block = 0 then hi + 1 else hi / block * block
      (if lo < first then cutByBytes k (lo, first - 1) else [])
        ++ (if first < behind then [(first, behind - 1)] else [])
        ++ (if behind ≤ hi then cutByBytes k (behind, hi) else [])

/-- The sequences of byte ranges that stand for the characters of a set. -/
def byteSequences (s : CharSet) : List ByteSequence :=
  (s.ranges.flatMap cutByLength).flatMap fun r =>
    (cutByBytes ((bytesOf r.1).length - 1) r).map fun p => (bytesOf p.1).zip (bytesOf p.2)

/-- The sequences that follow each first range, in the order of the sequences. -/
def continuations : List ByteSequence → List (List ByteSequence)
  | [] => []
  | [] :: rest => continuations rest
  | (r :: tail) :: rest => go r [tail] rest
where
  go (r : Nat × Nat) (tails : List ByteSequence) : List ByteSequence → List (List ByteSequence)
    | [] => [tails.reverse]
    | [] :: rest => go r tails rest
    | (r' :: tail) :: rest =>
      if r = r' then go r (tail :: tails) rest else tails.reverse :: go r' [tail] rest

/-- The distinct sets of sequences that are left behind up to `k` bytes. -/
def leftovers : Nat → List (List ByteSequence) → List (List ByteSequence)
  | 0, _ => []
  | k + 1, sets =>
    let sets := (sets.filter fun s => s.any (!·.isEmpty)).eraseDups
    (sets ++ leftovers k (sets.flatMap continuations)).eraseDups

/-- What is built for a set that is read from the left: sequences that go on alike share their states. -/
def forwardExtent (sequences : List ByteSequence) : Extent :=
  (leftovers 4 [sequences]).foldl (fun e rest => e.add ⟨1, 0, (continuations rest).length⟩) (.ofStates 1)

/-! ## Reading from the right -/

/-- A state that reads a byte of a range and leads to the state with the number `next`. -/
structure Reader where
  next : Nat
  range : Nat × Nat
  deriving DecidableEq, Repr, Inhabited

/-- The place of a state in a table of a thousand places. -/
def Reader.place (r : Reader) : Nat :=
  let mix (h : UInt64) (n : Nat) : UInt64 := (h ^^^ n.toUInt64) * 0x100000001B3
  (mix (mix (mix 0xCBF29CE484222325 r.next) r.range.1) r.range.2).toNat % 1000

/-- The states that have been built for a set: the number that the next one gets, and a table in which they are
found again. A place holds the latest state only, so that now and then a state is built twice. -/
structure Readers where
  count : Nat
  table : Array (Option (Reader × Nat))
  deriving Inhabited

/-- The number of a state, which is built unless it is found. -/
def Readers.number (built : Readers) (r : Reader) : Nat × Readers :=
  let place := r.place
  match built.table.getD place none with
  | some (r', n) =>
    if r = r' then (n, built)
    else (built.count, ⟨built.count + 1, built.table.setIfInBounds place (some (r, built.count))⟩)
  | none => (built.count, ⟨built.count + 1, built.table.setIfInBounds place (some (r, built.count))⟩)

/-- Builds the states of a sequence, of which the first leads to the state `next`. -/
def Readers.addSequence (built : Readers) : Nat → ByteSequence → Readers
  | _, [] => built
  | next, r :: rest =>
    let (n, built) := built.number ⟨next, r⟩
    built.addSequence n rest

/-- What has been built after a set that is read from the right: sequences that begin alike share their states. -/
def Extent.addBackward (sequences : List ByteSequence) (e : Extent) : Extent :=
  let first : Readers := ⟨e.states + 2, Array.replicate 1000 none⟩
  let built := sequences.foldl (fun built s => built.addSequence (e.states + 1) s) first
  ⟨built.count, e.links + sequences.length, e.ranges⟩

end FeatureFlags.Regex
