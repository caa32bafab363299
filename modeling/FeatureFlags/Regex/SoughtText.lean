import FeatureFlags.Regex.Size

/-!
# Languages that are sought by their texts

A language of few short texts, without conditions and groups, is searched for by its texts
(`Language.isSoughtByTexts`). No automaton is built for it, so its size does not count. The same
holds for a choice among very many texts.

`texts?` lists the texts of a language that has few. They do not suffice where the search would be
slow: texts with a common beginning are sought by that, and many texts by the first bytes of each;
then an automaton has to check what follows.
-/

namespace FeatureFlags.Regex

open Unicode (CharSet)

namespace Language

mutual
/-- Whether the language has neither conditions nor groups. -/
def isPlain : Language → Bool
  | condition _ => false
  | group _ => false
  | repeated _ _ _ inner => inner.isPlain
  | sequence parts => arePlain parts
  | choice branches => arePlain branches
  | _ => true

def arePlain : List Language → Bool
  | [] => true
  | l :: rest => l.isPlain && arePlain rest
end

/-- The texts of two lists, if they are not too many. -/
def unite? (s t : List Word) : Option (List Word) :=
  if s.length + t.length ≤ 250 then some (s ++ t) else none

/-- The texts of one list with those of the other behind them, if they are neither too many nor too long. -/
def append? (s t : List Word) : Option (List Word) :=
  if s.length * t.length ≤ 250 then
    let texts := s.flatMap fun w => t.map (w ++ ·)
    if texts.all (·.length ≤ 100) then some texts else none
  else none

/-- The texts of a repetition of some texts. -/
def repeat? (min : Nat) (max : Option Nat) (greedy : Bool) (texts : List Word) : Option (List Word) :=
  if min = 0 then
    if texts.isEmpty then some [[]]
    else if max = some 1 then (if greedy then unite? texts [[]] else unite? [[]] texts)
    else none
  else if texts.isEmpty then some []
  else if max = some min ∧ min ≤ 10 then Nat.repeat (·.bind fun s => append? s texts) min (some [[]])
  else none

/-- The characters of a set, if they are few. -/
def characters? (s : CharSet) : Option (List Word) :=
  if s.ranges.foldl (fun n r => n + (r.2 + 1 - r.1)) 0 ≤ 10 then
    some (s.ranges.flatMap fun r => (List.range (r.2 + 1 - r.1)).map fun k => bytesOf (r.1 + k))
  else none

mutual
/-- The texts of a language, if they are few and short. -/
def texts? : Language → Option (List Word)
  | empty => some [[]]
  | literal text => append? [[]] [bytesOfText text]
  | set members _ => characters? members
  | condition _ => some [[]]
  | group inner => inner.texts?
  | repeated min max greedy inner => inner.texts?.bind (repeat? min max greedy)
  | sequence parts => textsOfSequence? [[]] parts
  | choice branches => textsOfChoice? [] branches

/-- The texts of a sequence of which some parts have been read. Nothing follows where there are no texts. -/
def textsOfSequence? (texts : List Word) : List Language → Option (List Word)
  | [] => some texts
  | l :: rest =>
    if texts.isEmpty then some []
    else (l.texts?.bind (append? texts)).bind fun texts => textsOfSequence? texts rest

/-- The texts of a choice of which some branches have been read. -/
def textsOfChoice? (texts : List Word) : List Language → Option (List Word)
  | [] => some texts
  | l :: rest => (l.texts?.bind (unite? texts)).bind fun texts => textsOfChoice? texts rest
end

end Language

/-- The longest word with which two words begin. -/
def commonStart : Word → Word → Word
  | a :: as, b :: bs => if a = b then a :: commonStart as bs else []
  | _, _ => []

/-- The words without those that begin like an earlier one. -/
def withoutLonger (words : List Word) : List Word :=
  words.foldl (fun kept w => if kept.any (·.isPrefixOf w) then kept else kept ++ [w]) []

def isRareByte (b : Nat) : Bool :=
  b < 128 && !("\n\r (),-./0129:_abcdefghilmnoprstuvxy|".toList.any fun c => c.toNat == b)

/-- Cuts words to fewer bytes as long as they are too many: each step has a length and a number of words. -/
def shorten : List (Nat × Nat) → List Word → List Word
  | [], words => words
  | (length, number) :: rest, words =>
    if words.length ≤ number then words
    else shorten rest (withoutLonger (words.map (·.take length)))

/-- Whether the search keeps whole words, where they are not cut to what they have in common. -/
def areKeptWhole (words : List Word) : Bool :=
  let short := shorten [(5, 10), (4, 10), (3, 64), (2, 64), (1, 10)] words
  short.any (·.length ≤ 2) || 64 < short.length || short.all words.contains

/-- Whether texts are sought as they are. -/
def areSoughtWhole (texts : List Word) : Bool :=
  match withoutLonger texts with
  | [] => false
  | first :: rest =>
    let words := first :: rest
    let common := rest.foldl commonStart first
    let isLong (n : Nat) : Bool := words.any (n < ·.length)
    !texts.any (·.isEmpty)
      && (if 1 < texts.length && 0 < common.length && common.length ≤ 3 && common.head?.any isRareByte then
            !isLong 1
          else if 4 < common.length || (1 < common.length && 16 < words.length) then !isLong common.length
          else areKeptWhole words)

/-- Whether a language is a choice among thousands of texts, which are sought all at once. -/
def Language.hasManyTexts : Language → Bool
  | .choice branches => 3000 ≤ branches.length && branches.all fun l => l.word?.isSome
  | _ => false

/-- Whether a language is sought by its texts. -/
def Language.isSoughtByTexts (l : Language) : Bool :=
  l.isPlain && (l.texts?.any areSoughtWhole || l.hasManyTexts)

end FeatureFlags.Regex
