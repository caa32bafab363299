import FeatureFlags.Value
import FeatureFlags.Version.Order

/-!
# Comparisons

`equality`, `inequality`, `numeric` and `versions`. A comparison always yields a boolean: operands
that cannot be compared yield false.
-/

namespace FeatureFlags.Operation

def equality (a b : Value) : Value := .boolean (a.equals b)

def inequality (a b : Value) : Value := .boolean !(a.equals b)

def numeric (holds : Number → Number → Bool) (a b : Value) : Value :=
  match a.number?, b.number? with
  | some x, some y => .boolean (holds x y)
  | _, _ => .boolean false

/-- The version that a text stands for. -/
def version? (v : Value) : Option Version := v.text?.bind Version.parse?

def versions (holds : Ordering → Bool) (a b : Value) : Value :=
  match version? a, version? b with
  | some v, some w => .boolean (holds (v.compareVersion w))
  | _, _ => .boolean false

end FeatureFlags.Operation
