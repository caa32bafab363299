import FeatureFlags.Value

/-!
# The operand stack

`Stack` holds the values that the nodes run so far have left, the latest on top. `take?` pops the
arguments of an operator in the order of the call, and `result?` is the value of a stack that holds
just one.
-/

namespace FeatureFlags

/-- Operands, the top one first. -/
structure Stack where
  values : List Value
  deriving DecidableEq, Repr, Inhabited

namespace Stack

def empty : Stack := ⟨[]⟩

def push (s : Stack) (v : Value) : Stack := ⟨v :: s.values⟩

def pop? (s : Stack) : Option (Value × Stack) :=
  match s.values with
  | [] => none
  | v :: rest => some (v, ⟨rest⟩)

def size (s : Stack) : Nat := s.values.length

def isEmpty (s : Stack) : Bool := s.values.isEmpty

/-- The top `n` values, the top one first, and the stack below them; nothing if there are fewer. -/
def take? (s : Stack) (n : Nat) : Option (List Value × Stack) :=
  if n ≤ s.size then some (s.values.take n, ⟨s.values.drop n⟩) else none

/-- The result of an evaluation: the only value that is left. -/
def result? (s : Stack) : Option Value :=
  match s.values with
  | [v] => some v
  | _ => none

end Stack

/-- The first of some arguments, undefined when there is none, and the others. -/
def takeArgument : List Value → Value × List Value
  | [] => (.undefined, [])
  | v :: rest => (v, rest)

end FeatureFlags
