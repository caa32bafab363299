import FeatureFlags.Regex.Condition
import FeatureFlags.Unicode.CaseFolding

/-!
# Languages of patterns

`Language` is a pattern with its flags applied: texts, character sets, conditions on places, and
their combinations. `join`, `choose` and `ofRepetition` build languages in the normal form whose
size counts: adjacent letters are one text, a choice among characters is a set, a common beginning
of all branches stands before the choice, and what matches only the empty text is not repeated.
-/

namespace FeatureFlags.Regex

open Unicode (CharSet)

/-- What a pattern says. -/
inductive Language where
  /-- The empty text. -/
  | empty
  /-- A text that is not empty. -/
  | literal (text : List Char)
  /-- One character of a set. A set of bytes is a language of its own beside a set of characters with the
  same members. -/
  | set (members : CharSet) (ofBytes : Bool)
  /-- The empty text where a condition holds. -/
  | condition (k : Condition)
  /-- A group whose text is remembered. -/
  | group (inner : Language)
  /-- At least `min` and at most `max` times the same, as many as can be or as few. -/
  | repeated (min : Nat) (max : Option Nat) (greedy : Bool) (inner : Language)
  /-- One after the other. -/
  | sequence (parts : List Language)
  /-- One of several, the first that matches. -/
  | choice (branches : List Language)
  deriving Repr, Inhabited

namespace Language

/-! ## Lengths -/

/-- The lesser of two lengths; there is none unless both are known. -/
def lesser? (a b : Option Nat) : Option Nat := a.bind fun n => b.map fun m => min n m

/-- The greater of two lengths; there is none unless both are known. -/
def greater? (a b : Option Nat) : Option Nat := a.bind fun n => b.map fun m => max n m

/-- The sum of two lengths; there is none unless both are known. -/
def total? (a b : Option Nat) : Option Nat := a.bind fun n => b.map fun m => n + m

mutual
/-- A length that no text of the language falls short of; none if a part of it has no texts. -/
def minLength? : Language → Option Nat
  | empty => some 0
  | literal text => some text.length
  | set members _ => if members.isEmpty then none else some 1
  | condition _ => some 0
  | group inner => inner.minLength?
  | repeated min _ _ inner => inner.minLength?.map (min * ·)
  | sequence parts => minTotal? parts
  | choice branches => minOfAll? branches

def minTotal? : List Language → Option Nat
  | [] => some 0
  | l :: rest => total? l.minLength? (minTotal? rest)

def minOfAll? : List Language → Option Nat
  | [] => none
  | [l] => l.minLength?
  | l :: rest => lesser? l.minLength? (minOfAll? rest)
end

mutual
/-- A length that no text of the language exceeds; none if there is no such length, or if a part of the language
has no texts. -/
def maxLength? : Language → Option Nat
  | empty => some 0
  | literal text => some text.length
  | set members _ => if members.isEmpty then none else some 1
  | condition _ => some 0
  | group inner => inner.maxLength?
  | repeated _ max _ inner => max.bind fun n => inner.maxLength?.map (n * ·)
  | sequence parts => maxTotal? parts
  | choice branches => maxOfAll? branches

def maxTotal? : List Language → Option Nat
  | [] => some 0
  | l :: rest => total? l.maxLength? (maxTotal? rest)

def maxOfAll? : List Language → Option Nat
  | [] => none
  | [l] => l.maxLength?
  | l :: rest => greater? l.maxLength? (maxOfAll? rest)
end

/-- Whether at most the empty text belongs to the language. -/
def isEmptyOnly (l : Language) : Bool := l.maxLength? == some 0

/-! ## Sameness -/

mutual
/-- Whether two languages say the same in the same way. Groups are remembered one by one, so that no group is the
same as another. -/
def isSame : Language → Language → Bool
  | empty, empty => true
  | literal s, literal t => s == t
  | set s ofBytes, set t ofBytes' => s == t && ofBytes == ofBytes'
  | condition k, condition j => k == j
  | repeated min max greedy l, repeated min' max' greedy' m =>
    min == min' && max == max' && greedy == greedy' && isSame l m
  | sequence ls, sequence ms => areSame ls ms
  | choice ls, choice ms => areSame ls ms
  | _, _ => false

def areSame : List Language → List Language → Bool
  | [], [] => true
  | l :: ls, m :: ms => isSame l m && areSame ls ms
  | _, _ => false
end

/-! ## Building languages -/

def nothing : Language := set .empty true

def ofSet (s : CharSet) (ofBytes : Bool) : Language :=
  if s.isEmpty then nothing
  else
    match s.single? with
    | some c => literal [c]
    | none => set s ofBytes

/-- A repetition. The empty text is not repeated. -/
def ofRepetition (min : Nat) (max : Option Nat) (greedy : Bool) (inner : Language) : Language :=
  let (min, max) :=
    if inner.isEmptyOnly then (Nat.min min 1, some ((max.map (Nat.min 1)).getD 1)) else (min, max)
  if min = 0 ∧ max = some 0 then empty
  else if min = 1 ∧ max = some 1 then inner
  else repeated min max greedy inner

def partsOf : Language → List Language
  | empty => []
  | sequence parts => parts
  | l => [l]

/-- The parts of a sequence, where it is one. -/
def parts? : Language → Option (List Language)
  | sequence parts => some parts
  | _ => none

/-- Puts a part before others; two texts become one. -/
def joinBefore (l : Language) (parts : List Language) : List Language :=
  match l, parts with
  | literal s, literal t :: rest => literal (s ++ t) :: rest
  | l, parts => l :: parts

def join (ls : List Language) : Language :=
  match (ls.flatMap partsOf).foldr joinBefore [] with
  | [] => empty
  | [l] => l
  | parts => sequence parts

def branchesOf : Language → List Language
  | choice branches => branches
  | l => [l]

def characterSet? : Language → Option CharSet
  | literal [c] => some (.singleton c)
  | _ => none

def members? : Language → Option CharSet
  | set members _ => some members
  | _ => none

/-- A choice; among characters, or among sets, it is a set. -/
def merge (branches : List Language) : Language :=
  match branches with
  | [] => nothing
  | [l] => l
  | branches =>
    match (branches.mapM characterSet?).orElse fun _ => branches.mapM members? with
    | some sets => ofSet (.ofRanges (sets.flatMap (·.ranges))) false
    | none => choice branches

/-- The longest list of parts with which two lists begin. -/
def commonParts : List Language → List Language → List Language
  | l :: ls, m :: ms => if l.isSame m then l :: commonParts ls ms else []
  | _, _ => []

/-- The longest list of parts with which all branches begin, if all are sequences. -/
def commonBeginning (branches : List Language) : List Language :=
  match branches.mapM parts? with
  | some (first :: rest) => rest.foldl commonParts first
  | _ => []

/-- A choice. What all branches begin with stands before it. -/
def choose (ls : List Language) : Language :=
  match merge (ls.flatMap branchesOf) with
  | choice branches =>
    match commonBeginning branches with
    | [] => choice branches
    | common =>
      let remainders := branches.map fun l => join (l.partsOf.drop common.length)
      join (common ++ [merge (remainders.flatMap branchesOf)])
  | l => l

end Language

end FeatureFlags.Regex
