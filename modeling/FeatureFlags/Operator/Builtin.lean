import FeatureFlags.Operator.Basic
import FeatureFlags.Operator.Logic
import FeatureFlags.Operator.Comparison
import FeatureFlags.Operator.Text
import FeatureFlags.Operator.Percentage

/-!
# Built-in operators

`builtinOperations` lists the operators that every operator table starts with, by name. All are
functions of their arguments; `now` returns the time that the table was made with.
-/

namespace FeatureFlags

def unary (f : Value → Value) : Arity × (List Value → Value) :=
  (.exactly 1, fun args => f (args.getD 0 .undefined))

def binary (f : Value → Value → Value) : Arity × (List Value → Value) :=
  (.exactly 2, fun args => f (args.getD 0 .undefined) (args.getD 1 .undefined))

def ternary (f : Value → Value → Value → Value) : Arity × (List Value → Value) :=
  (.exactly 3, fun args =>
    f (args.getD 0 .undefined) (args.getD 1 .undefined) (args.getD 2 .undefined))

/-- The built-in operations by name, at the time `now`. -/
def builtinOperations (now : Number) : List (String × Arity × (List Value → Value)) :=
  [("isUndefined", unary Operation.undefinedness),
   ("now", .exactly 0, fun _ => .number now),
   ("and", .atLeast 2, Operation.conjunction),
   ("or", .atLeast 2, Operation.disjunction),
   ("not", unary Operation.negation),
   ("ifThen", ternary Operation.choice),
   ("eq", binary Operation.equality),
   ("ne", binary Operation.inequality),
   ("lt", binary (Operation.numeric Number.lt)),
   ("lte", binary (Operation.numeric Number.le)),
   ("gt", binary (Operation.numeric fun a b => b.lt a)),
   ("gte", binary (Operation.numeric fun a b => b.le a)),
   ("numeq", binary (Operation.numeric Number.eq)),
   ("numne", binary (Operation.numeric fun a b => !a.eq b)),
   ("semverEq", binary (Operation.versions (· == .eq))),
   ("semverNe", binary (Operation.versions (· != .eq))),
   ("semverLt", binary (Operation.versions Ordering.isLT)),
   ("semverLte", binary (Operation.versions Ordering.isLE)),
   ("semverGt", binary (Operation.versions Ordering.isGT)),
   ("semverGte", binary (Operation.versions Ordering.isGE)),
   ("md5", unary Operation.digest),
   ("concat", binary Operation.concatenation),
   ("b64d", unary Operation.decoding),
   ("isInPercentage", binary (Operation.belowPercentage Md5.digestOfText)),
   ("isInPercentageRange", ternary (Operation.withinPercentages Md5.digestOfText))]

def builtinOperators {m : Type → Type} [Monad m] (now : Number) : List (String × Operator m) :=
  (builtinOperations now).map fun o => (o.1, .ofFunction o.2.1 o.2.2)

end FeatureFlags
