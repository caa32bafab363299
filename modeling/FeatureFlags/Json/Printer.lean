import FeatureFlags.Json.Basic
import FeatureFlags.Text.Quoted

/-!
# Writing JSON

`Json.render` writes the compact form: no blanks, and in texts an escape only where one is required.
-/

namespace FeatureFlags.Json

/-- A character inside a text. -/
def escapeChar (c : Char) : List Char :=
  if c = '"' then ['\\', '"']
  else if c = '\\' then ['\\', '\\']
  else if c = '\x08' then ['\\', 'b']
  else if c = '\x0c' then ['\\', 'f']
  else if c = '\n' then ['\\', 'n']
  else if c = '\r' then ['\\', 'r']
  else if c = '\t' then ['\\', 't']
  else if c < ' ' then
    ['\\', 'u', '0', '0', Nat.digitChar (c.toNat / 16), Nat.digitChar (c.toNat % 16)]
  else [c]

def printText (s : String) : List Char := ['"'] ++ s.toList.flatMap escapeChar ++ ['"']

def printNumeral : Numeral → List Char
  | .natural n => Decimal.digitsOf n
  | .negative n => '-' :: Decimal.digitsOf n
  | .float x => x.exactText

mutual
def print : Json → List Char
  | null => ['n', 'u', 'l', 'l']
  | boolean b => (Value.booleanText b).toList
  | number n => printNumeral n
  | text s => printText s
  | array items => ['['] ++ printItems items ++ [']']
  | object members => ['\x7b'] ++ printMembers members ++ ['\x7d']

def printItems : List Json → List Char
  | [] => []
  | [v] => print v
  | v :: rest => print v ++ ',' :: printItems rest

def printMembers : List (String × Json) → List Char
  | [] => []
  | [(name, v)] => printText name ++ ':' :: print v
  | (name, v) :: rest => printText name ++ ':' :: print v ++ ',' :: printMembers rest
end

def render (v : Json) : String := String.ofList v.print

end FeatureFlags.Json
