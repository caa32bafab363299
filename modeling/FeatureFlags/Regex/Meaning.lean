import FeatureFlags.Regex.Language
import FeatureFlags.Regex.Pattern

/-!
# The meaning of patterns

`Pattern.language?` applies flags to a pattern from the left. Flags by themselves hold up to the end
of the enclosing group, also in its later branches; flags of a group hold inside it.

A pattern with the Unicode flag cleared is about bytes: its classes contain ASCII characters only,
and it is refused if it could match a part of a character.
-/

namespace FeatureFlags.Regex

open Unicode (CharSet)

/-- The flags that hold at a place of a pattern. -/
structure Modes where
  ignoreCase : Bool
  multiLine : Bool
  dotAll : Bool
  swapGreed : Bool
  unicode : Bool
  crlf : Bool
  deriving DecidableEq, Repr, Inhabited

namespace Modes

/-- The flags that hold where a pattern begins. -/
def initial : Modes := ⟨false, false, false, false, true, false⟩

def change (m : Modes) (ch : FlagChange) : Modes :=
  { ignoreCase := (ch.state? .ignoreCase).getD m.ignoreCase
    multiLine := (ch.state? .multiLine).getD m.multiLine
    dotAll := (ch.state? .dotAll).getD m.dotAll
    swapGreed := (ch.state? .swapGreed).getD m.swapGreed
    unicode := (ch.state? .unicode).getD m.unicode
    crlf := (ch.state? .crlf).getD m.crlf }

/-- A set with the case variants of its members, where case does not count. -/
def fold (m : Modes) (s : CharSet) : CharSet :=
  if m.ignoreCase then (if m.unicode then s.foldCase else s.foldAsciiCase) else s

/-- A set or its complement. A complement holds parts of characters where the pattern is about bytes. -/
def negate? (m : Modes) (negated : Bool) (s : CharSet) : Option CharSet :=
  if negated then (if m.unicode then some s.compl else none) else some s

/-- One character of a set, where flags hold. -/
def language (m : Modes) (s : CharSet) : Language := .ofSet s (!m.unicode)

/-- The character that a letter stands for, unless it is a part of one. -/
def letter? (m : Modes) (l : Letter) : Option Char :=
  if !m.unicode && l.mayBeByte && 127 < l.char.toNat then none else some l.char

/-- The character that a letter stands for inside a class. -/
def classLetter? (m : Modes) (l : Letter) : Option Char :=
  (m.letter? l).filter fun c => m.unicode || c.toNat < 128

end Modes

def AsciiClass.set : AsciiClass → CharSet
  | alnum => .ofRanges [(0x30, 0x39), (0x41, 0x5A), (0x61, 0x7A)]
  | alpha => .ofRanges [(0x41, 0x5A), (0x61, 0x7A)]
  | ascii => .ofRanges [(0x00, 0x7F)]
  | blank => .ofRanges [(0x09, 0x09), (0x20, 0x20)]
  | cntrl => .ofRanges [(0x00, 0x1F), (0x7F, 0x7F)]
  | digit => .ofRanges [(0x30, 0x39)]
  | graph => .ofRanges [(0x21, 0x7E)]
  | lower => .ofRanges [(0x61, 0x7A)]
  | print => .ofRanges [(0x20, 0x7E)]
  | punct => .ofRanges [(0x21, 0x2F), (0x3A, 0x40), (0x5B, 0x60), (0x7B, 0x7E)]
  | space => .ofRanges [(0x09, 0x0D), (0x20, 0x20)]
  | upper => .ofRanges [(0x41, 0x5A)]
  | word => asciiWord
  | xdigit => .ofRanges [(0x30, 0x39), (0x41, 0x46), (0x61, 0x66)]

def ShortClass.set (unicode : Bool) : ShortClass → CharSet
  | digit => if unicode then Unicode.digits else AsciiClass.digit.set
  | space => if unicode then Unicode.whiteSpace else AsciiClass.space.set
  | word => if unicode then Unicode.wordCharacters else asciiWord

/-- The characters for which a property has the value that is named. -/
def PropertyName.set? : PropertyName → Option CharSet
  | single name => Unicode.namedSet? name
  | equal name value => Unicode.valuedSet? name value
  | unequal name value => Unicode.valuedSet? name value

/-- Whether the characters are meant for which the property has not the value that is named. -/
def PropertyName.isNegated : PropertyName → Bool
  | unequal .. => true
  | _ => false

/-- The characters of a property where flags hold; properties are about characters only. To negate an inequality
is to ask for the value. -/
def Modes.property? (m : Modes) (name : PropertyName) (negated : Bool) : Option CharSet :=
  if m.unicode then (name.set?).bind fun s => m.negate? (negated != name.isNegated) (m.fold s) else none

def SetOperation.apply : SetOperation → CharSet → CharSet → CharSet
  | intersection, s, t => s.inter t
  | difference, s, t => s.diff t
  | symmetricDifference, s, t => s.symmDiff t

mutual
/-- The characters of a class. Case variants are added at the closing bracket. -/
def Class.set? (m : Modes) : Class → Option CharSet
  | .empty => some .empty
  | .letter l => (m.classLetter? l).map .singleton
  | .range first last => do
    let lo ← m.classLetter? first
    let hi ← m.classLetter? last
    some (.range lo hi)
  | .ascii kind negated => m.negate? negated (m.fold kind.set)
  | .short kind negated => m.negate? negated (kind.set m.unicode)
  | .property name negated => m.property? name negated
  | .bracketed negated inner => (inner.set? m).bind fun s => m.negate? negated (m.fold s)
  | .union items => Class.unionSet? m items
  | .combine op left right => do
    let s ← left.set? m
    let t ← right.set? m
    some (op.apply (m.fold s) (m.fold t))

def Class.unionSet? (m : Modes) : List Class → Option CharSet
  | [] => some .empty
  | c :: rest => do
    let s ← c.set? m
    let t ← Class.unionSet? m rest
    some (s.union t)
end

/-- The condition of an assertion where flags hold. -/
def Assertion.condition (m : Modes) : Assertion → Condition
  | lineStart => if m.multiLine then (if m.crlf then .lineStartCrlf else .lineStart) else .textStart
  | lineEnd => if m.multiLine then (if m.crlf then .lineEndCrlf else .lineEnd) else .textEnd
  | textStart => .textStart
  | textEnd => .textEnd
  | wordBoundary => .word .boundary m.unicode
  | notWordBoundary => .word .notBoundary m.unicode
  | wordStart => .word .start m.unicode
  | wordEnd => .word .finish m.unicode
  | wordStartHalf => .word .startHalf m.unicode
  | wordEndHalf => .word .finishHalf m.unicode

/-- The characters that a dot stands for. -/
def Modes.dot (m : Modes) : CharSet :=
  if m.dotAll then .all
  else if m.crlf then CharSet.compl (.ofRanges [(0x0A, 0x0A), (0x0D, 0x0D)])
  else CharSet.compl (.ofRanges [(0x0A, 0x0A)])

mutual
/-- What a pattern says where flags hold, and the flags behind it. -/
def Pattern.language? : Pattern → Modes → Option (Language × Modes)
  | .empty, m => some (.empty, m)
  | .flags ch, m => some (.empty, m.change ch)
  | .letter l, m => (m.letter? l).map fun c => (m.language (m.fold (.singleton c)), m)
  | .dot, m => if m.unicode then some (m.language m.dot, m) else none
  | .assertion kind, m => some (.condition (kind.condition m), m)
  | .short kind negated, m =>
    (m.negate? negated (kind.set m.unicode)).map fun s => (m.language s, m)
  | .property name negated, m => (m.property? name negated).map fun s => (m.language s, m)
  | .bracketed negated inner, m =>
    ((Class.bracketed negated inner).set? m).map fun s => (m.language s, m)
  | .repeated min max greedy inner, m =>
    (inner.language? m).map fun p => (.ofRepetition min max (greedy != p.2.swapGreed) p.1, p.2)
  | .group captures ch inner, m =>
    (inner.language? (m.change ch)).map fun p => (if captures then .group p.1 else p.1, m)
  | .sequence items, m => (Pattern.languages? items m).map fun p => (.join p.1, p.2)
  | .choice branches, m => (Pattern.languages? branches m).map fun p => (.choose p.1, p.2)

/-- What several patterns say that stand behind one another, and the flags behind the last one. -/
def Pattern.languages? : List Pattern → Modes → Option (List Language × Modes)
  | [], m => some ([], m)
  | p :: rest, m => do
    let (l, m) ← p.language? m
    let (ls, m) ← Pattern.languages? rest m
    some (l :: ls, m)
end

end FeatureFlags.Regex
