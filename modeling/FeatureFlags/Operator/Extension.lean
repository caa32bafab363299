import FeatureFlags.Operator.Table
import FeatureFlags.CustomProperty
import FeatureFlags.Diagnostic
import FeatureFlags.Regex.Match

/-!
# Extension operators

The two operators that are not functions of their arguments. `Operator.matching` matches a regular
expression, and reports an invalid pattern; `Operator.customProperty` looks up a custom property
when it runs, and evaluates it in the context. `OperatorTable.standard` adds both to the built-in
operators.
-/

namespace FeatureFlags

namespace Operator

variable {m : Type → Type} [Monad m]

/-- Whether a text matches a pattern under flags. Operands that are not texts, and an invalid pattern,
yield false. -/
def matching (report : Diagnostic → m Unit) : Operator m :=
  ⟨.exactly 3, fun args _ =>
    match args with
    | [.text flags, .text pattern, .text text] => do
      let pattern := Regex.withFlags flags pattern
      match Regex.matches? pattern text with
      | some b => pure (.boolean b)
      | none =>
        report (.invalidPattern pattern)
        pure (.boolean false)
    | _ => pure (.boolean false)⟩

/-- The value of a custom property. A property that is missing or has no value, and a name that is not a
text, yield undefined. -/
def customProperty (find? : String → m (Option CustomProperty)) : Operator m :=
  ⟨.exactly 1, fun args c =>
    match args with
    | [.text name] => do
      match ← find? name with
      | some p => pure (p.value c)
      | none => pure .undefined
    | _ => pure .undefined⟩

end Operator

namespace OperatorTable

variable {m : Type → Type} [Monad m]

/-- The operators that every condition may use: the built-in ones at the time `now`, matching, and custom
properties. -/
def standard (now : Number) (report : Diagnostic → m Unit)
    (find? : String → m (Option CustomProperty)) : OperatorTable m :=
  ((builtin now).insert "match" (.matching report)).insert "property" (.customProperty find?)

end OperatorTable

end FeatureFlags
