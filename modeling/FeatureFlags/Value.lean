import FeatureFlags.Number.Text

/-!
# Values

A `Value` of the expression language is a boolean, a text, a number, or `undefined`, which stands
for a missing decision. `Value.render` gives the text of a value, and none for `undefined`.

`Value.equals` is the equality of the language: numbers are compared as numbers, so NaN does not
equal itself. It differs from equality of `Value`s.
-/

namespace FeatureFlags

/-- A value of the expression language. -/
inductive Value where
  | boolean (b : Bool)
  | text (s : String)
  | number (x : Number)
  | undefined
  deriving DecidableEq, Repr, Inhabited

namespace Value

def isUndefined : Value → Bool
  | undefined => true
  | _ => false

def boolean? : Value → Option Bool
  | boolean b => some b
  | _ => none

def text? : Value → Option String
  | text s => some s
  | _ => none

def number? : Value → Option Number
  | number x => some x
  | _ => none

/-- A missing value is undefined. -/
def ofOption : Option Value → Value
  | some v => v
  | none => undefined

/-- Equality of the language. Values of different kinds are never equal. -/
def equals : Value → Value → Bool
  | boolean a, boolean b => a == b
  | text a, text b => a == b
  | number a, number b => a.eq b
  | undefined, undefined => true
  | _, _ => false

def booleanText (b : Bool) : String := if b then "true" else "false"

/-- The text of a value, as flags return it; none for `undefined`. -/
def render : Value → Option String
  | boolean b => some (booleanText b)
  | text s => some s
  | number x => some (String.ofList x.valueText)
  | undefined => none

end Value

end FeatureFlags
