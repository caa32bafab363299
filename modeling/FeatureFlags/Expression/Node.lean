import FeatureFlags.Expression.Parser

/-!
# Nodes

`Expr.flatten` turns a tree into the list of nodes that is evaluated: operands, and operators after
their arguments. Arguments are listed in reverse, so the first one ends on top of the stack.
-/

namespace FeatureFlags

/-- An operand to push, or an operator that takes as many operands as it was given. -/
inductive Node where
  | operand (v : Value)
  | operator (name : String) (arity : Nat)
  deriving DecidableEq, Repr, Inhabited

namespace Expr

mutual
/-- The nodes of an expression. -/
def flatten : Expr → List Node
  | literal v => [.operand v]
  | call name arguments => flattenAll arguments ++ [.operator name arguments.length]

/-- The nodes of several expressions, those of the last one first. -/
def flattenAll : List Expr → List Node
  | [] => []
  | e :: rest => flattenAll rest ++ flatten e
end

end Expr

def Node.parse (s : String) : Except SyntaxError (List Node) := (Expr.parse s).map Expr.flatten

end FeatureFlags
