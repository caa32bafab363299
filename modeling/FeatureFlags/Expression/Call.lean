import FeatureFlags.Value

/-!
# Call trees

An expression is a literal or a call of a named operator on expressions (`Expr`). There are no infix
forms, and a name by itself is a call without arguments. `Expr.evaluate` evaluates a tree directly:
all arguments, the last one first, then the operator.
-/

namespace FeatureFlags

/-- An expression as a tree of calls. -/
inductive Expr where
  | literal (v : Value)
  | call (name : String) (arguments : List Expr)
  deriving Repr, Inhabited

namespace Expr

mutual
/-- The greatest number of calls on a path from the root. -/
def depth : Expr → Nat
  | literal _ => 0
  | call _ arguments => depthAll arguments + 1

def depthAll : List Expr → Nat
  | [] => 0
  | e :: rest => max (depth e) (depthAll rest)
end

mutual
/-- The value of an expression; `apply` applies an operator to the values of its arguments. -/
def evaluate {m : Type → Type} [Monad m] (apply : String → List Value → m Value) : Expr → m Value
  | literal v => pure v
  | call name arguments => do
    let values ← evaluateAll apply arguments
    apply name values

/-- The values of expressions in their order; the last expression is evaluated first. -/
def evaluateAll {m : Type → Type} [Monad m] (apply : String → List Value → m Value) :
    List Expr → m (List Value)
  | [] => pure []
  | e :: rest => do
    let values ← evaluateAll apply rest
    let value ← evaluate apply e
    pure (value :: values)
end

end Expr

end FeatureFlags
