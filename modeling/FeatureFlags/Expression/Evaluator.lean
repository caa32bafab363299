import FeatureFlags.Expression.Evaluation
import FeatureFlags.Operator.Table

/-!
# Evaluators

An `Evaluator` is an operator table with a global context. `Evaluator.register` adds an operator,
and `Evaluator.evaluate` evaluates a text in the context that it is given: laying that over the
global context is left to the caller.
-/

namespace FeatureFlags

/-- Operators, and a context shared by all evaluations. -/
structure Evaluator (m : Type → Type) where
  operators : OperatorTable m
  globalContext : Context

namespace Evaluator

variable {m : Type → Type} [Monad m]

/-- The surroundings of an evaluation with the operators of an evaluator. -/
def surroundings (e : Evaluator m) (report : Diagnostic → m Unit) : Surroundings m :=
  ⟨fun name => pure (e.operators.find? name), report⟩

/-- Registers an operator, and reports if it replaces another one. -/
def register (e : Evaluator m) (report : Diagnostic → m Unit) (name : String) (o : Operator m) :
    m (Evaluator m) := do
  if e.operators.contains name then report (.replacedOperator name)
  pure { e with operators := e.operators.insert name o }

def evaluate (e : Evaluator m) (report : Diagnostic → m Unit) (expression : String) (c : Context) :
    m Value :=
  (e.surroundings report).evaluate expression c

end Evaluator

end FeatureFlags
