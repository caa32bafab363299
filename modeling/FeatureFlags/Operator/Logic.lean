import FeatureFlags.Value

/-!
# Logical operations

`conjunction`, `disjunction`, `negation` and `choice`. Undefined counts as false; texts and numbers
have no truth value (`truth?`). `combine` goes through all operands: one without a truth value makes
the result undefined, wherever it occurs.
-/

namespace FeatureFlags.Operation

def truth? : Value → Option Bool
  | .boolean b => some b
  | .undefined => some false
  | .text _ => none
  | .number _ => none

/-- Combines the truth values of all operands, from the left. -/
def combine (op : Bool → Bool → Bool) (result : Bool) : List Value → Value
  | [] => .boolean result
  | v :: rest =>
    match truth? v with
    | some b => combine op (op result b) rest
    | none => .undefined

def conjunction (args : List Value) : Value := combine (· && ·) true args

def disjunction (args : List Value) : Value := combine (· || ·) false args

def negation (v : Value) : Value := .ofOption ((truth? v).map fun b => .boolean !b)

/-- The second operand if the first is true, the third if it is false. -/
def choice (condition thenValue elseValue : Value) : Value :=
  match truth? condition with
  | some true => thenValue
  | some false => elseValue
  | none => .undefined

def undefinedness (v : Value) : Value := .boolean v.isUndefined

end FeatureFlags.Operation
