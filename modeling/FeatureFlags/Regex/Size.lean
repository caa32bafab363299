import FeatureFlags.Regex.Language
import FeatureFlags.Regex.ByteSequence
import FeatureFlags.Regex.WordTree

/-!
# The size of a language

A language is refused if an automaton for it would take too much memory (`isTooLarge`). Two automata
count: one reads from the left and has states for groups, the other reads from the right. Neither is
built; a `Load` lists what would be built, in order, and its extent is computed.
-/

namespace FeatureFlags.Regex

open Unicode (CharSet)

/-- What is built for a language, in order. -/
inductive Load where
  /-- A part whose extent is known. -/
  | plain (e : Extent)
  /-- A set that is read from the right. -/
  | backward (sequences : List ByteSequence)
  /-- One after the other. -/
  | several (loads : List Load)
  /-- Several times the same. -/
  | copies (n : Nat) (load : Load)
  deriving Repr, Inhabited

namespace Load

mutual
/-- What has been built after the load. -/
def addTo : Load → Extent → Extent
  | plain part, e => e.add part
  | backward sequences, e => e.addBackward sequences
  | several loads, e => addAll loads e
  | copies n load, e => Extent.addCopies (fun e => load.addTo e) n e

def addAll : List Load → Extent → Extent
  | [], e => e
  | load :: rest, e => addAll rest (load.addTo e)
end

/-- A state that leads on in two ways. -/
def fork : Load := plain ⟨1, 2, 0⟩

/-- A state that leads on in one way only. -/
def step : Load := plain (.ofStates 1)

/-- The load of a repetition. Where the empty text may be repeated without bound, a loop needs more. -/
def ofRepetition (min : Nat) (max : Option Nat) (mayBeEmpty : Bool) (load : Load) : Load :=
  match min, max with
  | 0, none => if mayBeEmpty then several [load, fork, fork, step] else several [fork, load]
  | n, none => several [copies n load, fork]
  | 0, some 1 => several [fork, load, step]
  | n, some k =>
    if n = k then copies n load
    else several [if n = 0 then step else copies n load, step, copies (k - n) (several [fork, load])]

end Load

def bytesOfText (text : List Char) : Word := text.flatMap fun c => bytesOf c.toNat

namespace Language

/-- The bytes of a text that is a language. -/
def word? : Language → Option Word
  | literal text => some (bytesOfText text)
  | _ => none

def setLoad (forward : Bool) (s : CharSet) : Load :=
  if s.isAscii then .plain ⟨2, 0, s.ranges.length⟩
  else if forward then .plain (Regex.forwardExtent (byteSequences s))
  else .backward (byteSequences s)

/-- The load of a choice, given the loads of its branches. Texts alone are put into a tree. -/
def choiceLoad (forward : Bool) (branches : List Language) (loads : List Load) : Load :=
  match branches.mapM word? with
  | some words => .plain (treeExtent (if forward then words else words.map List.reverse))
  | none => .several (loads.take 2 ++ [.plain ⟨2, loads.length, 0⟩] ++ loads.drop 2)

mutual
def load (forward : Bool) : Language → Load
  | empty => .step
  | literal text => .plain (.ofStates (bytesOfText text).length)
  | set members _ => setLoad forward members
  | condition _ => .step
  | group inner => if forward then .several [.step, load forward inner, .step] else load forward inner
  | repeated min max _ inner =>
    .ofRepetition min max (inner.minLength?.all (· == 0)) (load forward inner)
  | sequence parts => .several (if forward then loads forward parts else (loads forward parts).reverse)
  | choice branches => choiceLoad forward branches (loads forward branches)

def loads (forward : Bool) : List Language → List Load
  | [] => []
  | l :: rest => load forward l :: loads forward rest
end

mutual
/-- Whether a match can only begin where the text does. -/
def isAnchoredAtStart : Language → Bool
  | condition k => k == .textStart
  | group inner => inner.isAnchoredAtStart
  | repeated min _ _ inner => 0 < min && inner.isAnchoredAtStart
  | sequence parts => anyAnchoredAtStart parts
  | choice branches => allAnchoredAtStart branches
  | _ => false

/-- Whether this is so for one part of a sequence, and no part before it reads anything. -/
def anyAnchoredAtStart : List Language → Bool
  | [] => false
  | l :: rest => l.isAnchoredAtStart || (l.isEmptyOnly && anyAnchoredAtStart rest)

def allAnchoredAtStart : List Language → Bool
  | [] => true
  | l :: rest => l.isAnchoredAtStart && allAnchoredAtStart rest
end

mutual
/-- Whether a match can only end where the text does. -/
def isAnchoredAtEnd : Language → Bool
  | condition k => k == .textEnd
  | group inner => inner.isAnchoredAtEnd
  | repeated min _ _ inner => 0 < min && inner.isAnchoredAtEnd
  | sequence parts => anyAnchoredAtEnd parts
  | choice branches => allAnchoredAtEnd branches
  | _ => false

/-- Whether this is so for one part of a sequence, and no part behind it reads anything. -/
def anyAnchoredAtEnd : List Language → Bool
  | [] => false
  | l :: rest => (rest.all isEmptyOnly && l.isAnchoredAtEnd) || anyAnchoredAtEnd rest

def allAnchoredAtEnd : List Language → Bool
  | [] => true
  | l :: rest => l.isAnchoredAtEnd && allAnchoredAtEnd rest
end

/-- The load of the search for the place where a match begins: hardly any where it is known. -/
def searchLoad (isAnchored : Bool) : Load := if isAnchored then .step else .plain ⟨3, 2, 1⟩

/-- The extent of the automaton that reads a text from the left, and remembers the whole match. -/
def forwardExtent (l : Language) : Extent :=
  (Load.several [searchLoad l.isAnchoredAtStart, .step, l.load true, .step, .step]).addTo .zero

/-- The extent of the automaton that reads a text from the right. -/
def backwardExtent (l : Language) : Extent :=
  (Load.several [searchLoad l.isAnchoredAtEnd, l.load false, .step]).addTo .zero

def isTooLarge (l : Language) : Bool := l.forwardExtent.isTooLarge || l.backwardExtent.isTooLarge

end Language

end FeatureFlags.Regex
