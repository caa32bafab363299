import FeatureFlags.Unicode.Property

/-!
# Conditions

The assertions of a pattern about a place between two characters (`Condition`): that the text or a
line begins or ends there, or a word does. `Condition.holds` looks at the character before the place
and the one after it.
-/

namespace FeatureFlags.Regex

open Unicode (CharSet)

/-- A place in a text: the characters before and after it. -/
structure Between where
  before : Option Char
  after : Option Char
  deriving DecidableEq, Repr, Inhabited

/-- Which word characters a condition is about, and what it says of them. -/
inductive WordCondition where
  | boundary
  | notBoundary
  | start
  | finish
  | startHalf
  | finishHalf
  deriving DecidableEq, Repr, Inhabited

/-- A condition on a place. -/
inductive Condition where
  | textStart
  | textEnd
  | lineStart
  | lineEnd
  | lineStartCrlf
  | lineEndCrlf
  | word (kind : WordCondition) (unicode : Bool)
  deriving DecidableEq, Repr, Inhabited

/-- Word characters below 128. -/
def asciiWord : CharSet := .ofRanges [(0x30, 0x39), (0x41, 0x5A), (0x5F, 0x5F), (0x61, 0x7A)]

/-- Whether there is a word character on one side of a place. -/
def isWord (unicode : Bool) (c : Option Char) : Bool :=
  c.any fun c => (if unicode then Unicode.wordCharacters else asciiWord).contains c

/-- Whether what a condition says holds, given whether there are word characters on both sides. -/
def WordCondition.holds : WordCondition → Bool → Bool → Bool
  | boundary, before, after => before != after
  | notBoundary, before, after => before == after
  | start, before, after => !before && after
  | finish, before, after => before && !after
  | startHalf, before, _ => !before
  | finishHalf, _, after => !after

/-- Whether a condition holds at a place. A carriage return and the line feed after it end one line. -/
def Condition.holds (k : Condition) (p : Between) : Bool :=
  match k with
  | textStart => p.before.isNone
  | textEnd => p.after.isNone
  | lineStart => p.before.all (· == '\n')
  | lineEnd => p.after.all (· == '\n')
  | lineStartCrlf => p.before.all fun c => c == '\n' || (c == '\r' && p.after != some '\n')
  | lineEndCrlf => p.after.all fun c => c == '\r' || (c == '\n' && p.before != some '\r')
  | word kind unicode => kind.holds (isWord unicode p.before) (isWord unicode p.after)

end FeatureFlags.Regex
