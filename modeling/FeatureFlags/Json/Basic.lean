import FeatureFlags.Context

/-!
# JSON values

`Json` is the data of payloads and reports. A `Numeral` is kept as it was written: natural numbers
and negative integers that fit in 64 bits are exact, all others are binary64 values. An object lists
its members in the order of the text, so a repeated name is still visible.
-/

namespace FeatureFlags

inductive Numeral where
  /-- A natural number below 2⁶⁴. -/
  | natural (n : Nat)
  /-- The negative of a positive number up to 2⁶³. -/
  | negative (n : Nat)
  /-- A finite number. -/
  | float (x : Number)
  deriving DecidableEq, Repr, Inhabited

namespace Numeral

def toNumber : Numeral → Number
  | natural n => .ofNat n
  | negative n => (Number.ofNat n).neg
  | float x => x

end Numeral

inductive Json where
  | null
  | boolean (b : Bool)
  | number (n : Numeral)
  | text (s : String)
  | array (items : List Json)
  | object (members : List (String × Json))
  deriving Repr, Inhabited

/-- A number as data; what is no rational has no numeral. -/
def Number.toJson (x : Number) : Json := if x.isFinite then .number (.float x) else .null

/-- A value as data: the absence of a decision is null. -/
def Value.toJson : Value → Json
  | boolean b => .boolean b
  | text s => .text s
  | number x => x.toJson
  | undefined => .null

/-- The value of a datum: lists and objects are no values. -/
def Value.ofJson? : Json → Option Value
  | .null => some undefined
  | .boolean b => some (boolean b)
  | .number n => some (number n.toNumber)
  | .text s => some (text s)
  | .array _ => none
  | .object _ => none

def Context.toJson (c : Context) : Json :=
  .object (c.attributes.entries.map fun e => (e.1, e.2.toJson))

def Json.texts (ss : List String) : Json := .array (ss.map .text)

end FeatureFlags
