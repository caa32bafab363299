/-!
# Patterns as they are written

`Pattern` is the syntax tree of a regular expression before its flags are applied.
-/

namespace FeatureFlags.Regex

/-- A flag. The flag that lets blanks and comments stand in a pattern takes effect while it is read. -/
inductive Flag where
  | ignoreCase
  | multiLine
  | dotAll
  | swapGreed
  | unicode
  | crlf
  | ignoreSpace
  deriving DecidableEq, Repr, Inhabited

/-- Flags that are set, and flags that are cleared. -/
structure FlagChange where
  set : List Flag
  cleared : List Flag
  deriving DecidableEq, Repr, Inhabited

/-- What a change says about a flag. -/
def FlagChange.state? (ch : FlagChange) (f : Flag) : Option Bool :=
  if ch.set.contains f then some true else if ch.cleared.contains f then some false else none

/-- A condition on a place between two characters. -/
inductive Assertion where
  | lineStart
  | lineEnd
  | textStart
  | textEnd
  | wordBoundary
  | notWordBoundary
  | wordStart
  | wordEnd
  | wordStartHalf
  | wordEndHalf
  deriving DecidableEq, Repr, Inhabited

/-- A class that one letter names. -/
inductive ShortClass where
  | digit
  | space
  | word
  deriving DecidableEq, Repr, Inhabited

/-- A class of characters below 128 that has a name in brackets. -/
inductive AsciiClass where
  | alnum
  | alpha
  | ascii
  | blank
  | cntrl
  | digit
  | graph
  | lower
  | print
  | punct
  | space
  | upper
  | word
  | xdigit
  deriving DecidableEq, Repr, Inhabited

/-- The name of a property, alone, with a value that it has, or with a value that it has not. -/
inductive PropertyName where
  | single (name : String)
  | equal (name value : String)
  | unequal (name value : String)
  deriving DecidableEq, Repr, Inhabited

/-- A character of a pattern. One that is written as a number of two digits stands for a byte where the
pattern is not about characters. -/
structure Letter where
  char : Char
  mayBeByte : Bool
  deriving DecidableEq, Repr, Inhabited

inductive SetOperation where
  | intersection
  | difference
  | symmetricDifference
  deriving DecidableEq, Repr, Inhabited

inductive Class where
  | empty
  | letter (l : Letter)
  | range (first last : Letter)
  | ascii (kind : AsciiClass) (negated : Bool)
  | short (kind : ShortClass) (negated : Bool)
  | property (name : PropertyName) (negated : Bool)
  | bracketed (negated : Bool) (inner : Class)
  | union (items : List Class)
  | combine (op : SetOperation) (left right : Class)
  deriving Repr, Inhabited

inductive Pattern where
  | empty
  | flags (change : FlagChange)
  | letter (l : Letter)
  | dot
  | assertion (kind : Assertion)
  | short (kind : ShortClass) (negated : Bool)
  | property (name : PropertyName) (negated : Bool)
  | bracketed (negated : Bool) (inner : Class)
  | repeated (min : Nat) (max : Option Nat) (greedy : Bool) (inner : Pattern)
  | group (captures : Bool) (change : FlagChange) (inner : Pattern)
  | sequence (items : List Pattern)
  | choice (branches : List Pattern)
  deriving Repr, Inhabited

mutual
/-- How deep brackets, unions and operations lie inside one another. -/
def Class.depth : Class → Nat
  | .bracketed _ inner => inner.depth + 1
  | .union items => Class.depthAll items + 1
  | .combine _ left right => max left.depth right.depth + 1
  | _ => 0

def Class.depthAll : List Class → Nat
  | [] => 0
  | c :: rest => max c.depth (Class.depthAll rest)
end

mutual
/-- How deep the parts of a pattern lie inside one another. -/
def Pattern.depth : Pattern → Nat
  | .bracketed _ inner => inner.depth + 1
  | .repeated _ _ _ inner => inner.depth + 1
  | .group _ _ inner => inner.depth + 1
  | .sequence items => Pattern.depthAll items + 1
  | .choice branches => Pattern.depthAll branches + 1
  | _ => 0

def Pattern.depthAll : List Pattern → Nat
  | [] => 0
  | p :: rest => max p.depth (Pattern.depthAll rest)
end

/-- The greatest depth that a pattern may have. -/
def depthLimit : Nat := 250

end FeatureFlags.Regex
