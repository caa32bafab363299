/-!
# The extent of an automaton

`Extent` counts the states of an automaton over bytes, the alternatives of its branching states, and
the byte ranges of its states with several of them. `Extent.room` is the memory this takes, which
has a limit.
-/

namespace FeatureFlags.Regex

/-- What an automaton, or a part of it, consists of. -/
structure Extent where
  states : Nat
  links : Nat
  ranges : Nat
  deriving DecidableEq, Repr, Inhabited

namespace Extent

def zero : Extent := ⟨0, 0, 0⟩

def add (a b : Extent) : Extent := ⟨a.states + b.states, a.links + b.links, a.ranges + b.ranges⟩

/-- The room that a part takes, in bytes. -/
def room (e : Extent) : Nat := 32 * e.states + 4 * e.links + 8 * e.ranges

/-- The greatest room that an automaton may take: ten mebibytes. -/
def roomLimit : Nat := 10 * 0x100000

def isTooLarge (e : Extent) : Bool := roomLimit < e.room

/-- Adds the same part several times, but no further than to the point where there is too much. -/
def addCopies (part : Extent → Extent) : Nat → Extent → Extent
  | 0, e => e
  | n + 1, e => if e.isTooLarge then e else addCopies part n (part e)

/-- States without ways and ranges. -/
def ofStates (n : Nat) : Extent := ⟨n, 0, 0⟩

end Extent

end FeatureFlags.Regex
