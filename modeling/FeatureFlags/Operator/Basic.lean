import FeatureFlags.Value
import FeatureFlags.Context

/-!
# Operators

An `Operator` has an arity and an operation, which takes the arguments in the order of the call and
the context and yields one value, with effects in a monad. `Operator.call` yields undefined, without
running the operation, for a number of arguments that the arity rejects.
-/

namespace FeatureFlags

/-- The numbers of arguments that an operator takes. -/
inductive Arity where
  | exactly (n : Nat)
  | atLeast (n : Nat)
  deriving DecidableEq, Repr, Inhabited

namespace Arity

/-- Whether a call with `count` arguments is allowed. -/
def accepts : Arity → Nat → Bool
  | exactly n, count => count == n
  | atLeast n, count => n ≤ count

def shown : Arity → List Char
  | exactly n => "Exactly(".toList ++ Decimal.digitsOf n ++ [')']
  | atLeast n => "AtLeast(".toList ++ Decimal.digitsOf n ++ [')']

end Arity

/-- An operator whose operation has effects in `m`. -/
structure Operator (m : Type → Type) where
  arity : Arity
  run : List Value → Context → m Value

namespace Operator

variable {m : Type → Type} [Monad m]

/-- An operator without effects that does not look at the context. -/
def ofFunction (arity : Arity) (f : List Value → Value) : Operator m := ⟨arity, fun args _ => pure (f args)⟩

def call (o : Operator m) (args : List Value) (c : Context) : m Value :=
  if o.arity.accepts args.length then o.run args c else pure .undefined

def shown (o : Operator m) : List Char :=
  "Operator \x7b arity: ".toList ++ o.arity.shown ++ ", .. \x7d".toList

end Operator

end FeatureFlags
