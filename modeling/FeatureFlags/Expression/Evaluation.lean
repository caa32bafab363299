import FeatureFlags.Expression.Node
import FeatureFlags.Expression.Stack
import FeatureFlags.Operator.Basic
import FeatureFlags.Diagnostic

/-!
# Evaluation

`Surroundings.evaluate` parses a text to nodes and runs them from the left on a stack. It never
fails: a malformed text, an unknown operator, an operator without enough operands on the stack and a
stack that does not end with one value all yield undefined and report a diagnostic.
-/

namespace FeatureFlags

/-- What evaluation needs: the lookup of operators, done when a call is reached, and a log. -/
structure Surroundings (m : Type → Type) where
  lookup : String → m (Option (Operator m))
  report : Diagnostic → m Unit

namespace Surroundings

variable {m : Type → Type} [Monad m]

/-- The value of a call within an expression. -/
def apply (s : Surroundings m) (expression : String) (c : Context) (name : String)
    (args : List Value) : m Value := do
  match ← s.lookup name with
  | some operator => operator.call args c
  | none =>
    s.report (.unknownOperator expression name)
    pure .undefined

/-- Runs nodes on a stack; none if an operator lacks operands. -/
def run (s : Surroundings m) (expression : String) (c : Context) :
    List Node → Stack → m (Option Stack)
  | [], stack => pure (some stack)
  | .operand v :: rest, stack => s.run expression c rest (stack.push v)
  | .operator name arity :: rest, stack =>
    match stack.take? arity with
    | none => pure none
    | some (args, below) => do
      let value ← s.apply expression c name args
      s.run expression c rest (below.push value)

/-- The value that is left on the stack after a run. -/
def conclude (s : Surroundings m) (expression : String) : Option Stack → m Value
  | none => do
    s.report (.stackUnderflow expression)
    pure .undefined
  | some stack =>
    match stack.result? with
    | some v => pure v
    | none => do
      s.report (.unbalancedStack expression stack.size)
      pure .undefined

def evaluate (s : Surroundings m) (expression : String) (c : Context) : m Value :=
  match Node.parse expression with
  | .error e => do
    s.report (.malformedExpression expression e)
    pure .undefined
  | .ok nodes => do
    let stack ← s.run expression c nodes .empty
    s.conclude expression stack

end Surroundings

end FeatureFlags
